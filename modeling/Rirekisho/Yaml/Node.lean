import Rirekisho.Yaml.Flaw
import Rirekisho.Yaml.Literal

namespace Rirekisho.Yaml

/-- What a node stands for. -/
inductive Tag where
  | null
  | truth
  | integer
  | number
  | binary
  | time
  | text
  | list
  | map
  | set
  /-- A list of mappings of one entry, each a pair. -/
  | pairs
  /-- The key under which other mappings are merged. -/
  | merge
  /-- The key for the value of a mapping as a whole. -/
  | equals
  | other (name : String)
  deriving Repr, DecidableEq

namespace Tag

/-- The front that the names of the usual tags have in common. -/
def usual : String := "tag:yaml.org,2002:"

/-- The usual tags by their names. -/
def table : List (String × Tag) :=
  [("null", .null), ("bool", .truth), ("int", .integer), ("float", .number), ("binary", .binary),
    ("timestamp", .time), ("str", .text), ("seq", .list), ("map", .map), ("set", .set),
    ("omap", .pairs), ("pairs", .pairs), ("merge", .merge), ("value", .equals)]

/-- The tag with the given name. -/
def ofName (name : String) : Tag :=
  match table.find? fun (short, _) => usual ++ short == name with
  | some (_, tag) => tag
  | none => .other name

/-- The tag of a text, told by its form. A line feed at its end does not matter, unless it is all. -/
def ofPlain (text : List Char) : Tag :=
  let text := if text = ['\n'] then text else withoutLineEnd text
  let word := String.ofList text
  if word ∈ truthWords then .truth
  else if isFloat text then .number
  else if isInteger text then .integer
  else if word = "<<" then .merge
  else if word ∈ nullWords then .null
  else if isTime text then .time
  else if word = "=" then .equals
  else if word ∈ ["!", "&", "*"] then .other (usual ++ "yaml")
  else .text

end Tag

/-- What has been built, or the failure that is told, with its depth. -/
abbrev Built (β : Type) := Except (Nat × Failure) β

/-- Two parts put together. Of two failures the one of lesser depth is told. -/
def Built.both {α β γ : Type} (f : α → β → γ) (a : Built α) (b : Built β) : Built γ :=
  match a, b with
  | .ok x, .ok y => .ok (f x y)
  | .error e, .ok _ => .error e
  | .ok _, .error e => .error e
  | .error e, .error e' => if e'.1 < e.1 then .error e' else .error e

/-- An outcome at a depth. -/
def Built.at {β : Type} (depth : Nat) : Except Failure β → Built β
  | .ok x => .ok x
  | .error e => .error (depth, e)

/-- A flaw at a depth. -/
def Built.flaw {β : Type} (depth : Nat) (flaw : Flaw) : Built β := .error (depth, flaw.toFailure)

/-- What has been built somewhere, seen from so much further out. -/
def Built.deeper {β : Type} (depth : Nat) : Built β → Built β
  | .ok x => .ok x
  | .error (own, e) => .error (depth + own, e)

/-- A node of a document. -/
inductive Node where
  | scalar (tag : Tag) (text : List Char)
  | list (tag : Tag) (items : List Node)
  | map (tag : Tag) (pairs : List (Node × Node))
  /-- The node with an anchor, once more. -/
  | alias (anchor : String)

/-- What is known of a node with an anchor. -/
structure Anchored where
  tag : Tag
  /-- The text, if there is one where it should be. -/
  text : Option (List Char)
  value : Built Value
  /-- What it stands for where a pair should be. -/
  pair : Built Value
  /-- It can be merged into a mapping: it is a mapping, or a list of such. -/
  isMergeable : Bool
  /-- It is a mapping that can be merged into another. -/
  isMergeableMap : Bool
  /-- The entries that come from it where it is merged. -/
  merged : Built (List (Value × Value))

/-- The anchors that are known. -/
abbrev Anchors := List (String × Anchored)

/-- What is known of the node with an anchor. -/
def Anchors.get (anchors : Anchors) (name : String) : Anchored :=
  match anchors.find? (·.1 == name) with
  | some (_, known) => known
  | none => ⟨.null, none, .ok .null, .ok .null, false, false, .ok []⟩

namespace Node

/-- The node of something left out. -/
def empty : Node := .scalar .null []

/-- The tag of a node. -/
def tag (anchors : Anchors) : Node → Tag
  | .scalar tag _ | .list tag _ | .map tag _ => tag
  | .alias name => (anchors.get name).tag

mutual

/-- The text of a node that should be one: its own, or that of its value as a whole. -/
def text? (anchors : Anchors) : Node → Option (List Char)
  | .scalar _ text => some text
  | .list _ _ => none
  | .map _ pairs => wholeText? anchors pairs
  | .alias name => (anchors.get name).text

/-- The text of the value as a whole among entries. -/
def wholeText? (anchors : Anchors) : List (Node × Node) → Option (List Char)
  | [] => none
  | (key, value) :: rest =>
    if key.tag anchors = .equals then value.text? anchors else wholeText? anchors rest

end

/-- The bytes that a text of binary data stands for. -/
def binaryOf (text : List Char) : Except Failure Value :=
  if text.all (·.toNat < 0x80) then
    match binaryBytes 0 0 0 text with
    | some bytes => .ok (.bytes bytes)
    | none => .error Flaw.badBinary.toFailure
  else .error Flaw.badBinary.toFailure

/-- The value of a text with a tag for simple values. -/
def simpleValue (tag : Tag) (text : List Char) : Except Failure Value :=
  match tag with
  | .null => .ok .null
  | .truth => (truthOf text).map .bool
  | .integer => (integerOf text).map .int
  | .number => (numberOf text).map .float
  | .binary => binaryOf text
  | .time => timeOf text
  | _ => .ok (.text (String.ofList text))

/-- The tag is one for simple values. -/
def isSimple : Tag → Bool
  | .null | .truth | .integer | .number | .binary | .time | .text => true
  | _ => false

/-- The tag is one for collections. -/
def isCollection : Tag → Bool
  | .list | .map | .set | .pairs => true
  | _ => false

/-- The value of a mapping that stands for a simple value, from the text of its value as a whole. A
time is read from the text of the node, and a mapping has none. -/
def wholeValue (tag : Tag) (text : Option (List Char)) : Except Failure Value :=
  match text with
  | none => .error Flaw.wrongKind.toFailure
  | some text => if tag = .time then .error .notText else simpleValue tag text

mutual

/-- What is merged into a mapping can be: it is a mapping, or a list of such. -/
def mergesWell (anchors : Anchors) : List (Node × Node) → Bool
  | [] => true
  | (key, value) :: rest =>
    (key.tag anchors != .merge || value.isMergeable anchors) && mergesWell anchors rest

/-- The node can be merged into a mapping. -/
def isMergeable (anchors : Anchors) : Node → Bool
  | .scalar _ _ => false
  | .list _ items => areMergeable anchors items
  | .map _ pairs => mergesWell anchors pairs
  | .alias name => (anchors.get name).isMergeable

/-- The nodes are mappings that can be merged into another. -/
def areMergeable (anchors : Anchors) : List Node → Bool
  | [] => true
  | node :: rest => node.isMergeableMap anchors && areMergeable anchors rest

/-- The node is a mapping that can be merged into another. -/
def isMergeableMap (anchors : Anchors) : Node → Bool
  | .map _ pairs => mergesWell anchors pairs
  | .alias name => (anchors.get name).isMergeableMap
  | _ => false

end

/-- The value of a key, given its value as a node. The key for the value of a mapping as a whole is a
text among others. -/
def keyValue (anchors : Anchors) (depth : Nat) (key : Node) (value : Built Value) : Built Value :=
  if key.tag anchors = .equals then
    match key.text? anchors with
    | some text => .ok (.text (String.ofList text))
    | none => .flaw depth .wrongKind
  else value

/-- The entries of a mapping: those that are merged into it and then its own. What cannot be merged is
told before all else. -/
def entriesOf (anchors : Anchors) (depth : Nat) (pairs : List (Node × Node))
    (merged own : Built (List (Value × Value))) : Built (List (Value × Value)) :=
  if mergesWell anchors pairs then Built.both (· ++ ·) merged own else .flaw depth .badMerge

mutual

/-- The value of a node at a depth. -/
def value (anchors : Anchors) (depth : Nat) : Node → Built Value
  | .scalar tag text =>
    if isSimple tag then Built.at depth (simpleValue tag text)
    else if isCollection tag then .flaw (depth + 1) .wrongKind
    else .flaw depth .unknownTag
  | .list tag items =>
    match tag with
    | .list => (values anchors (depth + 1) items).map .list
    | .pairs => (pairValues anchors (depth + 1) items).map .list
    | .map | .set => .flaw (depth + 1) .wrongKind
    | tag => .flaw depth (if isSimple tag then .wrongKind else .unknownTag)
  | .map tag pairs =>
    let entries := entriesOf anchors (depth + 1) pairs (mergedEntries anchors (depth + 1) pairs)
      (ownEntries anchors (depth + 1) pairs)
    match tag with
    | .map => entries.map fun es => .map (Value.insertAll [] es)
    | .set => entries.map fun es => .set ((Value.insertAll [] es).map Prod.fst)
    | .list | .pairs => .flaw (depth + 1) .wrongKind
    | tag =>
      if isSimple tag then Built.at depth (wholeValue tag (wholeText? anchors pairs))
      else .flaw depth .unknownTag
  | .alias name => (anchors.get name).value.deeper depth

/-- The values of nodes. -/
def values (anchors : Anchors) (depth : Nat) : List Node → Built (List Value)
  | [] => .ok []
  | node :: rest => Built.both List.cons (node.value anchors depth) (values anchors depth rest)

/-- The values of mappings of one entry each. -/
def pairValues (anchors : Anchors) (depth : Nat) : List Node → Built (List Value)
  | [] => .ok []
  | node :: rest =>
    Built.both List.cons (node.pairValue anchors depth) (pairValues anchors depth rest)

/-- The value of a mapping of one entry. -/
def pairValue (anchors : Anchors) (depth : Nat) : Node → Built Value
  | .map _ [(key, value)] =>
    Built.both (fun k v => Value.list [k, v]) (key.value anchors depth) (value.value anchors depth)
  | .alias name => (anchors.get name).pair.deeper depth
  | _ => .flaw depth .wrongKind

/-- The entries of a mapping without those that are merged. The keys have to be simple values. -/
def ownEntries (anchors : Anchors) (depth : Nat) :
    List (Node × Node) → Built (List (Value × Value))
  | [] => .ok []
  | (key, value) :: rest =>
    if key.tag anchors = .merge then ownEntries anchors depth rest
    else if isCollection (key.tag anchors) then .flaw depth .collectionAsKey
    else
      Built.both List.cons
        (Built.both Prod.mk (keyValue anchors depth key (key.value anchors depth))
          (value.value anchors depth))
        (ownEntries anchors depth rest)

/-- The entries that are merged into a mapping. -/
def mergedEntries (anchors : Anchors) (depth : Nat) :
    List (Node × Node) → Built (List (Value × Value))
  | [] => .ok []
  | (key, value) :: rest =>
    if key.tag anchors = .merge then
      Built.both (· ++ ·) (value.merged anchors depth) (mergedEntries anchors depth rest)
    else mergedEntries anchors depth rest

/-- The entries of what is merged: of a mapping, or of several, the first of which count most. -/
def merged (anchors : Anchors) (depth : Nat) : Node → Built (List (Value × Value))
  | .map _ pairs =>
    Built.both (· ++ ·) (mergedEntries anchors depth pairs) (ownEntries anchors depth pairs)
  | .list _ items => mergedAll anchors depth items
  | .alias name => (anchors.get name).merged.deeper depth
  | .scalar _ _ => .flaw depth .badMerge

/-- The entries of mappings that are merged, those of the last one first. -/
def mergedAll (anchors : Anchors) (depth : Nat) : List Node → Built (List (Value × Value))
  | [] => .ok []
  | node :: rest =>
    Built.both (· ++ ·) (mergedAll anchors depth rest) (node.merged anchors depth)

end

/-- What is known of a node. -/
def known (anchors : Anchors) (node : Node) : Anchored where
  tag := node.tag anchors
  text := node.text? anchors
  value := node.value anchors 0
  pair := node.pairValue anchors 0
  isMergeable := node.isMergeable anchors
  isMergeableMap := node.isMergeableMap anchors
  merged := node.merged anchors 0

/-- The node without what it holds. -/
def emptied : Node → Node
  | .list tag _ => .list tag []
  | .map tag _ => .map tag []
  | node => node

end Node

/-- What is known of nodes with anchors, given in the order in which they end. A collection that is
not at its end where it is named holds itself: there it counts as it does when it is unfolded once
less, and in the end as empty. -/
def Anchors.ofNodes (nodes : List (String × Node)) : Nat → Anchors
  | 0 => nodes.map fun (name, node) => (name, node.emptied.known [])
  | times + 1 =>
    let before := ofNodes nodes times
    nodes.foldl (fun anchors (name, node) => (name, node.known (anchors ++ before)) :: anchors) []

end Rirekisho.Yaml
