namespace Rirekisho

/-- A value of a document. -/
inductive Value where
  | null
  | bool (b : Bool)
  | int (n : Int)
  | float (x : Float)
  | text (s : String)
  /-- A date or a point in time, known by its notation. -/
  | time (written : String)
  | bytes (data : List UInt8)
  | list (items : List Value)
  /-- Values without order, each one once. -/
  | set (items : List Value)
  | map (entries : List (Value × Value))
  deriving Inhabited

namespace Value

/-- Truth values are numbers too. -/
def number? : Value → Option (Int ⊕ Float)
  | .bool b => some (.inl (if b then 1 else 0))
  | .int n => some (.inl n)
  | .float x => some (.inr x)
  | _ => none

/-- The float nearest to an integer. -/
def floatOfInt (n : Int) : Float :=
  let x := Float.ofScientific n.natAbs false 0
  if n < 0 then -x else x

/-- Of the bits of an integer, those after the first fifty-three are zero: so it is a float, unless
it is too large for one. -/
def isShort (n : Int) : Bool := n.natAbs % Nat.pow 2 (n.natAbs.log2 - 52) == 0

/-- Two numbers are equal, whatever their kind. -/
def equalNumbers : Int ⊕ Float → Int ⊕ Float → Bool
  | .inl m, .inl n => m == n
  | .inr x, .inr y => x == y || (x.isNaN && y.isNaN)
  | .inl n, .inr x | .inr x, .inl n => isShort n && !x.isInf && floatOfInt n == x

/-- Two keys of a mapping are the same: numbers by their value, whatever their kind. -/
def sameKey (a b : Value) : Bool :=
  match a.number?, b.number? with
  | some x, some y => equalNumbers x y
  | _, _ =>
    match a, b with
    | .null, .null => true
    | .text s, .text t => s == t
    | .time s, .time t => s == t
    | .bytes s, .bytes t => s == t
    | _, _ => false

/-- Entries with a value put under a key. -/
def insert (key value : Value) : List (Value × Value) → List (Value × Value)
  | [] => [(key, value)]
  | (k, v) :: rest =>
    if k.sameKey key then (k, value) :: rest else (k, v) :: insert key value rest

/-- Entries put in one after the other. -/
def insertAll (entries added : List (Value × Value)) : List (Value × Value) :=
  added.foldl (fun done (key, value) => insert key value done) entries

/-- The value under a key. -/
def lookup? (key : Value) (entries : List (Value × Value)) : Option Value :=
  (entries.find? (·.1.sameKey key)).map (·.2)

/-- The value under a text of a mapping. -/
def get? (v : Value) (key : String) : Option Value :=
  match v with
  | .map entries => lookup? (.text key) entries
  | _ => none

/-- The value counts as nothing: null, false, zero, or empty. -/
def isBlank : Value → Bool
  | .null | .bool false | .int 0 => true
  | .float x => x == 0.0
  | .text s => s == ""
  | .bytes data => data.isEmpty
  | .list items => items.isEmpty
  | .set items => items.isEmpty
  | .map entries => entries.isEmpty
  | _ => false

end Value

end Rirekisho
