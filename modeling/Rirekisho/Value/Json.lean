import Rirekisho.Numeral.Literal
import Rirekisho.Value.Basic

namespace Rirekisho.Json

/-- The text after blanks. -/
def skipBlanks (cs : List Char) : List Char :=
  cs.dropWhile fun c => c == ' ' || c == '\t' || c == '\n' || c == '\r'

/-- The text after a word. -/
def expect? (word : String) (cs : List Char) : Option (List Char) :=
  if word.toList.isPrefixOf cs then some (cs.drop word.length) else none

/-- The number with the given hexadecimal digits. -/
def ofHex? (cs : List Char) : Option Nat :=
  cs.foldlM (fun n c => do
    let c := Numeral.lowerAscii c
    if '0' ≤ c ∧ c ≤ '9' then some (16 * n + (c.toNat - '0'.toNat))
    else if 'a' ≤ c ∧ c ≤ 'f' then some (16 * n + (c.toNat - 'a'.toNat + 10))
    else none) 0

/-- A code unit that is written with four hexadecimal digits. -/
def unit? (cs : List Char) : Option (Nat × List Char) :=
  if cs.length < 4 then none else (ofHex? (cs.take 4)).map (·, cs.drop 4)

/-- The character of an escape by number, with that of the second half of a pair. Half a pair alone
is no character; the character for such cases stands in its place. -/
def numbered? (cs : List Char) : Option (Char × List Char) := do
  let (first, rest) ← unit? cs
  if 0xd800 ≤ first ∧ first < 0xdc00 then
    match rest with
    | '\\' :: 'u' :: more =>
      match unit? more with
      | some (second, after) =>
        if 0xdc00 ≤ second ∧ second < 0xe000 then
          return (Char.ofNat (0x10000 + (first - 0xd800) * 0x400 + (second - 0xdc00)), after)
        else return ('\ufffd', rest)
      | none => return ('\ufffd', rest)
    | _ => return ('\ufffd', rest)
  else if 0xdc00 ≤ first ∧ first < 0xe000 then return ('\ufffd', rest)
  else return (Char.ofNat first, rest)

/-- The character that an escape by letter stands for. -/
def lettered? : Char → Option Char
  | '"' => some '"'
  | '\\' => some '\\'
  | '/' => some '/'
  | 'b' => some '\x08'
  | 'f' => some '\x0c'
  | 'n' => some '\n'
  | 'r' => some '\r'
  | 't' => some '\t'
  | _ => none

/-- The rest of a text up to its quote, with fuel for its characters. -/
def text? : Nat → List Char → Option (List Char × List Char)
  | 0, _ => none
  | _ + 1, [] => none
  | _ + 1, '"' :: rest => some ([], rest)
  | fuel + 1, '\\' :: 'u' :: rest => do
    let (c, rest) ← numbered? rest
    let (cs, rest) ← text? fuel rest
    return (c :: cs, rest)
  | fuel + 1, '\\' :: letter :: rest => do
    let c ← lettered? letter
    let (cs, rest) ← text? fuel rest
    return (c :: cs, rest)
  | fuel + 1, c :: rest =>
    if c.toNat < 0x20 ∨ c = '\\' then none
    else do
      let (cs, rest) ← text? fuel rest
      return (c :: cs, rest)

/-- The digits at the front. -/
def takeDigits (cs : List Char) : List Char × List Char :=
  (cs.takeWhile (·.isDigit), cs.dropWhile (·.isDigit))

/-- The digits of a fraction, if there is a point with digits. -/
def takeFraction (cs : List Char) : List Char × List Char :=
  match cs with
  | '.' :: rest =>
    match takeDigits rest with
    | ([], _) => ([], cs)
    | (digits, rest) => (digits, rest)
  | _ => ([], cs)

/-- The exponent, if there is a letter for it with digits. -/
def takeExponent (cs : List Char) : Option Int × List Char :=
  match cs with
  | e :: rest =>
    if e = 'e' ∨ e = 'E' then
      let (negative, after) := Numeral.takeSign rest
      match takeDigits after with
      | ([], _) => (none, cs)
      | (digits, rest) =>
        let n : Int := Numeral.ofDigits (digits.filterMap Numeral.asciiDigit?)
        (some (if negative then -n else n), rest)
    else (none, cs)
  | [] => (none, [])

/-- A number. -/
def number? (cs : List Char) : Option (Value × List Char) :=
  let (negative, unsigned) := match cs with
    | '-' :: rest => (true, rest)
    | _ => (false, cs)
  let (whole, rest) := match unsigned with
    | '0' :: rest => (['0'], rest)
    | _ => takeDigits unsigned
  if whole = [] then none
  else
    let (fraction, rest) := takeFraction rest
    let (exponent, rest) := takeExponent rest
    let digits := (whole ++ fraction).filterMap Numeral.asciiDigit?
    if fraction = [] ∧ exponent = none then
      if whole.length ≤ Numeral.integerDigitLimit then
        let n : Int := Numeral.ofDigits digits
        some (.int (if negative then -n else n), rest)
      else none
    else
      let x := (Numeral.Decimal.mk (Numeral.ofDigits digits)
        (exponent.getD 0 - fraction.length)).toFloat
      some (.float (if negative then -x else x), rest)

/-- Values that are written as words. -/
def word? (cs : List Char) : Option (Value × List Char) :=
  [("null", Value.null), ("true", .bool true), ("false", .bool false), ("NaN", .float (0.0 / 0.0)),
    ("Infinity", .float (1.0 / 0.0)), ("-Infinity", .float (-1.0 / 0.0))].findSome?
    fun (word, value) => (expect? word cs).map (value, ·)

/-- Why a text stands for no value. -/
inductive Flaw where
  | malformed
  /-- Lists and mappings are nested too deep. -/
  | tooDeep
  deriving Repr, DecidableEq

/-- A part of a text, which is malformed without it. -/
def required {β : Type} : Option β → Except Flaw β
  | some part => .ok part
  | none => .error .malformed

mutual

/-- A value and the text after it, with a bound for its nesting and fuel for its parts. -/
def value (levels : Nat) : Nat → List Char → Except Flaw (Value × List Char)
  | 0, _ => .error .malformed
  | fuel + 1, cs =>
    match cs, levels with
    | '"' :: rest, _ => do
      let (s, rest) ← required (text? (rest.length + 1) rest)
      return (.text (String.ofList s), rest)
    | '[' :: _, 0 | '\x7b' :: _, 0 => .error .tooDeep
    | '[' :: rest, levels + 1 =>
      match skipBlanks rest with
      | ']' :: rest => .ok (.list [], rest)
      | rest => do
        let (items, rest) ← items levels fuel rest
        return (.list items, rest)
    | '\x7b' :: rest, levels + 1 =>
      match skipBlanks rest with
      | '\x7d' :: rest => .ok (.map [], rest)
      | rest => do
        let (members, rest) ← members levels fuel rest
        return (.map (Value.insertAll [] members), rest)
    | _, _ => required ((word? cs).or (number? cs))

/-- The values of a list up to its end. -/
def items (levels : Nat) : Nat → List Char → Except Flaw (List Value × List Char)
  | 0, _ => .error .malformed
  | fuel + 1, cs => do
    let (item, rest) ← value levels fuel cs
    match skipBlanks rest with
    | ']' :: rest => return ([item], rest)
    | ',' :: rest =>
      let (items, rest) ← items levels fuel (skipBlanks rest)
      return (item :: items, rest)
    | _ => throw .malformed

/-- The entries of a mapping up to its end. -/
def members (levels : Nat) : Nat → List Char → Except Flaw (List (Value × Value) × List Char)
  | 0, _ => .error .malformed
  | fuel + 1, cs => do
    match cs with
    | '"' :: rest =>
      let (key, rest) ← required (text? (rest.length + 1) rest)
      match skipBlanks rest with
      | ':' :: rest =>
        let (value, rest) ← value levels fuel (skipBlanks rest)
        let member := (Value.text (String.ofList key), value)
        match skipBlanks rest with
        | '\x7d' :: rest => return ([member], rest)
        | ',' :: rest =>
          let (members, rest) ← members levels fuel (skipBlanks rest)
          return (member :: members, rest)
        | _ => throw .malformed
      | _ => throw .malformed
    | _ => throw .malformed

end

/-- The deepest that lists and mappings can stand inside of each other. -/
def depthLimit : Nat := 975

/-- The value that a text stands for. -/
def read (s : String) : Except Flaw Value := do
  let (value, rest) ← value depthLimit (2 * s.length + 2) (skipBlanks s.toList)
  if skipBlanks rest = [] then return value else throw .malformed

end Rirekisho.Json
