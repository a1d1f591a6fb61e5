import Rirekisho.Yaml.Node
import Rirekisho.Yaml.Token

namespace Rirekisho.Yaml

/-- What is known while nodes are read. -/
structure Reading where
  /-- The tokens to come. -/
  tokens : List Token
  /-- The handles of tags. -/
  handles : List (String × String)
  /-- The anchors set so far. -/
  anchors : List String := []
  /-- The nodes with anchors that have been read to their ends, the last one first. -/
  nodes : List (String × Node) := []
  /-- A collection holds itself. -/
  looped : Bool := false
  /-- The number of collections around. -/
  depth : Nat := 0

namespace Reading

/-- Reading with what is known. -/
abbrev Read (β : Type) := StateT Reading (Except Failure) β

/-- Reading that has found a flaw. -/
def fail {β : Type} (flaw : Flaw) : Read β := throw flaw.toFailure

/-- The next token. -/
def peek : Read (Option Token) := do
  match (← get).tokens.head? with
  | some (.broken failure) => throw failure
  | token => return token

/-- The next token left behind. -/
def drop : Read Unit := modify fun r => { r with tokens := r.tokens.tail }

/-- The next token is one of some. -/
def at? (tokens : List Token) : Read Bool := do return (← peek).any tokens.contains

/-- An anchor set, if there is one. It has not been set before. -/
def setAnchor : Option String → Read Unit
  | none => pure ()
  | some name => do
    if (← get).anchors.contains name then fail .repeatedAnchor
    modify fun r => { r with anchors := name :: r.anchors }

/-- A node that has been read to its end, with its anchor. -/
def ended (anchor : Option String) (node : Node) : Read Node := do
  match anchor with
  | none => pure ()
  | some name => modify fun r => { r with nodes := (name, node) :: r.nodes }
  return node

/-- The node with an anchor once more. -/
def repeated (name : String) : Read Node := do
  let r ← get
  if !r.anchors.contains name then fail .unknownAnchor
  if !r.nodes.any (·.1 == name) then set { r with looped := true }
  return .alias name

/-- The deepest that collections can stand inside of each other. -/
def depthLimit : Nat := 490

/-- A collection with what it holds. -/
def collection (anchor : Option String) (content : Read Node) : Read Node := do
  setAnchor anchor
  let depth := (← get).depth
  if depth = depthLimit then throw .tooDeep
  modify fun r => { r with depth := depth + 1 }
  let node ← content
  modify fun r => { r with depth := depth }
  ended anchor node

/-- The name of a tag as it is written with its handle. -/
def tagName (handle : Option String) (rest : String) : Read String := do
  match handle with
  | none => return rest
  | some handle =>
    match (← get).handles.find? (·.1 == handle) with
    | some (_, front) => return front ++ rest
    | none => fail .unknownHandle

/-- An anchor, if there is one. -/
def anchor? : Read (Option String) := do
  match ← peek with
  | some (.anchor name) => drop; return some name
  | _ => return none

/-- A tag, if there is one: its handle and the rest. -/
def tag? : Read (Option (Option String × String)) := do
  match ← peek with
  | some (.tag handle rest) => drop; return some (handle, rest)
  | _ => return none

/-- The anchor and the name of the tag of a node, in either order. -/
def properties : Read (Option String × Option String) := do
  let before ← anchor?
  let tag ← tag?
  let anchor ← if before.isNone && tag.isSome then anchor? else pure before
  let name ← match tag with
    | some (handle, rest) => some <$> tagName handle rest
    | none => pure none
  return (anchor, name)

/-- The tag of a text. -/
def scalarTag (name : Option String) (text : List Char) (plain : Bool) : Tag :=
  match name with
  | none => if plain then .ofPlain text else .text
  | some "!" => .ofPlain text
  | some name => .ofName name

/-- The tag of a collection. -/
def collectionTag (name : Option String) (otherwise : Tag) : Tag :=
  match name with
  | none | some "!" => otherwise
  | some name => .ofName name

mutual

/-- A node: by its anchor, or with its properties. Fuel is given for the tokens. -/
def read : Nat → (block indentless : Bool) → Read Node
  | 0, _, _ => fail .missingNode
  | fuel + 1, block, indentless => do
    match ← peek with
    | some (.alias name) => drop; repeated name
    | _ =>
      let (anchor, name) ← properties
      let list (items : Read (List Node)) : Read Node :=
        collection anchor (.list (collectionTag name .list) <$> items)
      let map (pairs : Read (List (Node × Node))) : Read Node :=
        collection anchor (.map (collectionTag name .map) <$> pairs)
      let text (text : List Char) (plain : Bool) : Read Node := do
        setAnchor anchor
        ended anchor (.scalar (scalarTag name text plain) text)
      match ← peek, block, indentless with
      | some .blockEntry, _, true => list (entriesInline fuel)
      | some (.scalar s plain), _, _ => drop; text s plain
      | some .flowListStart, _, _ => drop; list (flowItems fuel true)
      | some .flowMapStart, _, _ => drop; map (flowPairs fuel true)
      | some .blockListStart, true, _ => drop; list (entries fuel)
      | some .blockMapStart, true, _ => drop; map (pairs fuel)
      | _, _, _ =>
        if anchor.isSome || name.isSome then text [] true else fail .missingNode

/-- A node, or one left out if one of some tokens follows. -/
def readUnless : Nat → (block indentless : Bool) → List Token → Read Node
  | 0, _, _, _ => fail .missingNode
  | fuel + 1, block, indentless, ends => do
    if ← at? ends then return Node.empty else read fuel block indentless

/-- The entries of a list that is told by its indentation. -/
def entries : Nat → Read (List Node)
  | 0 => fail .missingEnd
  | fuel + 1 => do
    match ← peek with
    | some .blockEntry =>
      drop
      let item ← readUnless fuel true false [.blockEntry, .blockEnd]
      return item :: (← entries fuel)
    | some .blockEnd => drop; return []
    | _ => fail .missingEnd

/-- The entries of a list that is indented no further than the key before it. -/
def entriesInline : Nat → Read (List Node)
  | 0 => fail .missingEnd
  | fuel + 1 => do
    match ← peek with
    | some .blockEntry =>
      drop
      let item ← readUnless fuel true false [.blockEntry, .key, .value, .blockEnd]
      return item :: (← entriesInline fuel)
    | _ => return []

/-- The entries of a mapping that is told by its indentation. -/
def pairs : Nat → Read (List (Node × Node))
  | 0 => fail .missingEnd
  | fuel + 1 => do
    match ← peek with
    | some .blockEnd => drop; return []
    | some .key =>
      drop
      let key ← readUnless fuel true true [.key, .value, .blockEnd]
      let value ← valueOf fuel true [.key, .value, .blockEnd]
      return (key, value) :: (← pairs fuel)
    | _ => fail .missingEnd

/-- The value after a key, or one left out. -/
def valueOf : Nat → (block : Bool) → List Token → Read Node
  | 0, _, _ => fail .missingNode
  | fuel + 1, block, ends => do
    match ← peek with
    | some .value => drop; readUnless fuel block block ends
    | _ => return Node.empty

/-- The items of a list in brackets. -/
def flowItems : Nat → (first : Bool) → Read (List Node)
  | 0, _ => fail .missingEnd
  | fuel + 1, first => do
    if ← at? [.flowListEnd] then drop; return []
    else
      if !first then
        if ← at? [.flowEntry] then drop else fail .missingEnd
      match ← peek with
      | some .key =>
        drop
        let key ← readUnless fuel false false [.value, .flowEntry, .flowListEnd]
        let value ← valueOf fuel false [.flowEntry, .flowListEnd]
        return Node.map .map [(key, value)] :: (← flowItems fuel false)
      | some .flowListEnd => drop; return []
      | _ =>
        let item ← read fuel false false
        return item :: (← flowItems fuel false)

/-- The entries of a mapping in brackets. -/
def flowPairs : Nat → (first : Bool) → Read (List (Node × Node))
  | 0, _ => fail .missingEnd
  | fuel + 1, first => do
    if ← at? [.flowMapEnd] then drop; return []
    else
      if !first then
        if ← at? [.flowEntry] then drop else fail .missingEnd
      match ← peek with
      | some .key =>
        drop
        let key ← readUnless fuel false false [.value, .flowEntry, .flowMapEnd]
        let value ← valueOf fuel false [.flowEntry, .flowMapEnd]
        return (key, value) :: (← flowPairs fuel false)
      | some .flowMapEnd => drop; return []
      | _ =>
        let key ← read fuel false false
        return (key, Node.empty) :: (← flowPairs fuel false)

end

/-- The handles of tags that are always known. -/
def usualHandles : List (String × String) := [("!", "!"), ("!!", Tag.usual)]

/-- The directives before a document, with the version seen so far and the handles declared. -/
def declarations (version : Bool) (handles : List (String × String)) :
    List Token → Except Failure (List (String × String) × List Token)
  | .declaration (.version major) :: rest =>
    if version || major != 1 then .error Flaw.badDirective.toFailure
    else declarations true handles rest
  | .declaration (.handle handle front) :: rest =>
    if handles.any (·.1 == handle) then .error Flaw.badDirective.toFailure
    else declarations version ((handle, front) :: handles) rest
  | .declaration .other :: rest => declarations version handles rest
  | .broken failure :: _ => .error failure
  | rest => .ok (handles ++ usualHandles, rest)

/-- The content of a document after its mark: nothing, if the document ends at once. -/
def content (fuel : Nat) : Read Node := do
  match ← peek with
  | some (.declaration _) | some .documentStart | some .documentEnd | some .streamEnd =>
    return Node.empty
  | _ => read fuel true false

/-- Nothing follows a document but the end. What follows is looked at up to the mark of the next
document. -/
def finish (tokens : List Token) : Except Failure Unit :=
  match tokens.dropWhile (· == .documentEnd) with
  | [.streamEnd] => .ok ()
  | rest =>
    match declarations false [] rest with
    | .error failure => .error failure
    | .ok _ => .error Flaw.furtherDocument.toFailure

/-- How often a collection that holds itself is unfolded: further than a record or settings reach. -/
def unfolding : Nat := 8

/-- The value of a document that stands alone. One without a node stands for nothing. -/
def document (tokens : List Token) : Except Failure Value := do
  let fuel := 4 * tokens.length + 4
  let (node, after) ←
    match tokens with
    | [.streamEnd] => return .null
    | .declaration _ :: _ | .documentStart :: _ =>
      match ← declarations false [] tokens with
      | (handles, .documentStart :: rest) => (content fuel).run { tokens := rest, handles }
      | _ => throw Flaw.furtherDocument.toFailure
    | _ => (read fuel true false).run { tokens, handles := usualHandles }
  finish after.tokens
  let anchors := Anchors.ofNodes after.nodes.reverse (if after.looped then unfolding else 1)
  match node.value anchors 0 with
  | .ok value => return value
  | .error (_, failure) => throw failure

end Reading

/-- The value of a document. -/
def read (source : Source) : Except Failure Value := Reading.document (Token.ofSource source)

end Rirekisho.Yaml
