import Rirekisho.Yaml.Scalar
import Rirekisho.Yaml.Source

namespace Rirekisho.Yaml

/-- What a directive declares. -/
inductive Declaration where
  | version (major : Nat)
  | handle (handle : String) (front : String)
  | other
  deriving Repr, DecidableEq

/-- A token of a document. -/
inductive Token where
  | declaration (declaration : Declaration)
  | documentStart
  | documentEnd
  | blockListStart
  | blockMapStart
  | blockEnd
  | flowListStart
  | flowListEnd
  | flowMapStart
  | flowMapEnd
  | blockEntry
  | flowEntry
  | key
  | value
  | alias (name : String)
  | anchor (name : String)
  | tag (handle : Option String) (rest : String)
  | scalar (text : List Char) (plain : Bool)
  | streamEnd
  /-- What cannot be read. -/
  | broken (failure : Failure)
  deriving Repr, DecidableEq

/-- A place where a key may have begun that needs no mark of its own. -/
structure KeyPlace where
  /-- The number of the token that comes next. -/
  token : Nat
  /-- There has to be a key here. -/
  required : Bool
  index : Nat
  line : Nat
  column : Nat
  deriving Repr

/-- The tokens so far, and what is known where they end. -/
structure Lexer where
  cursor : Cursor
  /-- The tokens, the last one first. -/
  tokens : List Token := []
  count : Nat := 0
  /-- The columns of the collections that are open, the innermost first. -/
  indents : List Nat := []
  /-- For each pair of brackets that is open, and outside of all, where a key may have begun. -/
  places : List (Option KeyPlace) := [none]
  /-- A key that needs no mark may begin here. -/
  keyAllowed : Bool := true
  /-- What stands behind the text, unless it is the end. -/
  obstacle : Option Failure := none

namespace Lexer

/-- The place is between brackets. -/
def inFlow (l : Lexer) : Bool := 1 < l.places.length

/-- The column from which on a part of the innermost collection is indented. -/
def inner (l : Lexer) : Nat :=
  match l.indents with
  | [] => 0
  | column :: _ => column + 1

/-- The tokens with a further one. -/
def add (l : Lexer) (token : Token) : Lexer :=
  { l with tokens := token :: l.tokens, count := l.count + 1 }

/-- The tokens with a further one, and the place moved over its characters. -/
def addOver (l : Lexer) (length : Nat) (token : Token) : Lexer :=
  { l.add token with cursor := l.cursor.skip length }

/-- Tokens with one put in before the last ones. -/
def putBefore (token : Token) : Nat → List Token → List Token
  | n + 1, last :: tokens => last :: putBefore token n tokens
  | _, tokens => token :: tokens

/-- The tokens with one put in where it has the given number. -/
def insert (l : Lexer) (number : Nat) (token : Token) : Lexer :=
  { l with tokens := putBefore token (l.count - number) l.tokens, count := l.count + 1 }

/-- The collections that are indented further than a column, ended. -/
def dedent (column : Option Nat) : List Nat → Lexer → Lexer
  | [], l => { l with indents := [] }
  | indent :: outer, l =>
    if column.all (· < indent) then dedent column outer (l.add .blockEnd)
    else { l with indents := indent :: outer }

/-- The collections that are indented further than a column ended, unless brackets are open. -/
def unwind (l : Lexer) (column : Option Nat) : Lexer :=
  if l.inFlow then l else dedent column l.indents l

/-- A collection is begun in a column, unless one that stands there or further in is open. -/
def indentAt (l : Lexer) (column : Nat) : Option Lexer :=
  if l.inner ≤ column then some { l with indents := column :: l.indents } else none

/-- The longest key that needs no mark. -/
def keyLimit : Nat := 1024

/-- A key that has begun at the place cannot end here any more. -/
def isStale (l : Lexer) (place : KeyPlace) : Bool :=
  place.line != l.cursor.line || place.index + keyLimit < l.cursor.index

/-- The places where a key may still end here. -/
def dropStale (l : Lexer) : Except Failure Lexer :=
  if l.places.any fun place => place.any fun place => place.required && l.isStale place then
    .error Flaw.keyWithoutColon.toFailure
  else .ok { l with places := l.places.map fun place => place.filter (!l.isStale ·) }

/-- The innermost place forgotten. -/
def forget (l : Lexer) : Except Failure Lexer :=
  match l.places with
  | some place :: outer =>
    if place.required then .error Flaw.keyWithoutColon.toFailure
    else .ok { l with places := none :: outer }
  | _ => .ok l

/-- The innermost place set here, where a key may begin. -/
def markPlace (l : Lexer) : Except Failure Lexer :=
  if l.keyAllowed then do
    let l ← l.forget
    let c := l.cursor
    let required := !l.inFlow && l.indents.head? == some c.column
    let place : KeyPlace := ⟨l.count, required, c.index, c.line, c.column⟩
    return { l with places := some place :: l.places.tail }
  else return l

/-- Blanks, comments and ends of lines left behind. Outside of brackets a key may begin on each new
line. -/
def skipBlanks : Nat → Lexer → Lexer
  | 0, l => l
  | fuel + 1, l =>
    let c := l.cursor.skipWhile (· == ' ')
    let c := if c.next = some '#' then c.toLineEnd else c
    match c.takeBreak? with
    | some (_, c) => skipBlanks fuel { l with cursor := c, keyAllowed := l.keyAllowed || !l.inFlow }
    | none => { l with cursor := c }

/-- The byte order mark at the front left behind. -/
def skipMark (l : Lexer) : Lexer :=
  if l.cursor.index = 0 ∧ l.cursor.next = some '\ufeff' then { l with cursor := l.cursor.step }
  else l

/-- The place moved to what follows the blanks. -/
def advance (l : Lexer) : Lexer := skipBlanks (l.cursor.rest.length + 1) l.skipMark

/-- What a new place means for keys and collections that have begun before it. -/
def settle (l : Lexer) : Except Failure Lexer := do
  let l ← l.dropStale
  return l.unwind (some l.cursor.column)

/-- The character can stand in a name. -/
def isNamePart (c : Char) : Bool :=
  ('0' ≤ c && c ≤ '9') || ('A' ≤ c && c ≤ 'Z') || ('a' ≤ c && c ≤ 'z') || c == '-' || c == '_'

/-- The character can stand in the rest of a tag. -/
def isTagPart (c : Char) : Bool := isNamePart c || ";/?:@&=+$,.!~*'()[]%".toList.contains c

/-- The name of an anchor. -/
def anchorName (c : Cursor) : Except Failure (String × Cursor) :=
  let (name, c) := c.span isNamePart
  if name.isEmpty || !(endsWord c.next || c.next.any fun x => "?:,]\x7d%@`".toList.contains x) then
    .error Flaw.badName.toFailure
  else .ok (String.ofList name, c)

/-- The bytes that escapes stand for, from the front on. -/
def escapedBytes : Nat → List Char → Option (List UInt8 × List Char)
  | 0, cs => some ([], cs)
  | fuel + 1, '%' :: a :: b :: rest => do
    let n ← Json.ofHex? [a, b]
    let (bytes, rest) ← escapedBytes fuel rest
    return (n.toUInt8 :: bytes, rest)
  | _ + 1, '%' :: _ => none
  | _ + 1, cs => some ([], cs)

/-- The text of the rest of a tag, its escapes resolved. -/
def unescaped : Nat → List Char → Option (List Char)
  | 0, cs => some cs
  | _ + 1, [] => some []
  | fuel + 1, x :: rest =>
    if x = '%' then do
      let (bytes, rest) ← escapedBytes fuel (x :: rest)
      let s ← String.fromUTF8? ⟨bytes.toArray⟩
      return s.toList ++ (← unescaped fuel rest)
    else do return x :: (← unescaped fuel rest)

/-- The rest of a tag. -/
def tagRest (c : Cursor) : Except Failure (String × Cursor) :=
  let (written, c) := c.span isTagPart
  match unescaped (written.length + 1) written with
  | some text =>
    if written.isEmpty then .error Flaw.badTag.toFailure else .ok (String.ofList text, c)
  | none => .error Flaw.badTag.toFailure

/-- The handle of a tag: two exclamation marks with a name between them, or a single one. -/
def tagHandle (c : Cursor) : Except Failure (String × Cursor) :=
  if c.next != some '!' then .error Flaw.badTag.toFailure
  else
    let (name, after) := c.step.span isNamePart
    if after.next = some '!' then .ok (String.ofList ('!' :: name ++ ['!']), after.step)
    else if c.peek 1 = some ' ' then .ok ("!", c.step)
    else .error Flaw.badTag.toFailure

/-- A tag. -/
def tagToken (c : Cursor) : Except Failure (Token × Cursor) := do
  let (token, c) ←
    if c.peek 1 = some '<' then
      let (rest, c) ← tagRest (c.skip 2)
      if c.next != some '>' then throw Flaw.badTag.toFailure
      pure (Token.tag none rest, c.step)
    else if endsWord (c.peek 1) then pure (Token.tag none "!", c.step)
    else
      let word := c.rest.tail.takeWhile fun x => !(endsPart (some x))
      let (handle, c) ← if word.contains '!' then tagHandle c else pure ("!", c.step)
      let (rest, c) ← tagRest c
      pure (Token.tag (some handle) rest, c)
  if endsPart c.next then return (token, c) else throw Flaw.badTag.toFailure

/-- A number of a version. -/
def versionNumber (c : Cursor) : Except Failure (Nat × Cursor) :=
  let (digits, c) := c.span fun x => '0' ≤ x && x ≤ '9'
  if digits.isEmpty then .error Flaw.badDirective.toFailure
  else if Numeral.integerDigitLimit < digits.length then .error .badLiteral
  else .ok (Numeral.ofDigits (digits.filterMap Numeral.asciiDigit?), c)

/-- The declaration of a version. -/
def versionDeclaration (c : Cursor) : Except Failure (Declaration × Cursor) := do
  let (major, c) ← versionNumber (c.skipWhile (· == ' '))
  if c.next != some '.' then throw Flaw.badDirective.toFailure
  let (_, c) ← versionNumber c.step
  if endsPart c.next then return (.version major, c) else throw Flaw.badDirective.toFailure

/-- The declaration of a handle for tags. -/
def handleDeclaration (c : Cursor) : Except Failure (Declaration × Cursor) := do
  let (handle, c) ← tagHandle (c.skipWhile (· == ' '))
  if c.next != some ' ' then throw Flaw.badDirective.toFailure
  let (front, c) ← tagRest (c.skipWhile (· == ' '))
  if endsPart c.next then return (.handle handle front, c) else throw Flaw.badDirective.toFailure

/-- A directive, up to the end of its line. -/
def directiveToken (c : Cursor) : Except Failure (Token × Cursor) := do
  let (name, c) := c.step.span isNamePart
  if name.isEmpty || !endsPart c.next then throw Flaw.badDirective.toFailure
  let (declaration, c) ←
    if name = "YAML".toList then versionDeclaration c
    else if name = "TAG".toList then handleDeclaration c
    else pure (Declaration.other, c.toLineEnd)
  match c.restOfLine? with
  | some c => return (.declaration declaration, c)
  | none => throw Flaw.badDirective.toFailure

/-- A token between documents: all collections end before it. -/
def between (l : Lexer) : Except Failure Lexer := do
  let l ← (l.unwind none).forget
  return { l with keyAllowed := false }

/-- The deepest nesting of brackets that is looked at: no collection is read that lies as deep as this
without the length of a key. -/
def flowLimit : Nat := 2 * keyLimit

/-- The begin of a collection in brackets. -/
def openFlow (l : Lexer) (token : Token) : Except Failure Lexer := do
  if flowLimit < l.places.length then throw .tooDeep
  let l ← l.markPlace
  return { l.addOver 1 token with places := none :: l.places, keyAllowed := true }

/-- The end of a collection in brackets. -/
def closeFlow (l : Lexer) (token : Token) : Except Failure Lexer := do
  let l ← l.forget
  if !l.inFlow then throw Flaw.strayBracket.toFailure
  return { l.addOver 1 token with places := l.places.tail, keyAllowed := false }

/-- A collection begun here by indentation, if none is open in this column. -/
def beginBlock (l : Lexer) (flaw : Flaw) (token : Token) : Except Failure Lexer :=
  if l.inFlow then .ok l
  else if !l.keyAllowed then .error flaw.toFailure
  else
    match l.indentAt l.cursor.column with
    | some l => .ok (l.add token)
    | none => .ok l

/-- The mark of an entry of a list. -/
def blockEntry (l : Lexer) : Except Failure Lexer := do
  let l ← (← l.beginBlock .misplacedEntry .blockListStart).forget
  return { l.addOver 1 .blockEntry with keyAllowed := true }

/-- The mark of a key. -/
def keyMark (l : Lexer) : Except Failure Lexer := do
  let l ← (← l.beginBlock .misplacedKey .blockMapStart).forget
  return { l.addOver 1 .key with keyAllowed := !l.inFlow }

/-- The mark of a value. What stands before it on its line becomes a key, and may begin a mapping. -/
def valueMark (l : Lexer) : Except Failure Lexer :=
  match l.places with
  | some place :: outer =>
    let l := { l with places := none :: outer, keyAllowed := false }
    let begun := if l.inFlow then none else l.indentAt place.column
    let l := (l.insert place.token .key)
    let l := match begun with
      | some b => { l.insert place.token .blockMapStart with indents := b.indents }
      | none => l
    .ok (l.addOver 1 .value)
  | _ => do
    let l ← (← l.beginBlock .misplacedValue .blockMapStart).forget
    return { l.addOver 1 .value with keyAllowed := !l.inFlow }

/-- A token that may be a key. -/
def node (l : Lexer) (scan : Cursor → Except Failure (Token × Cursor)) : Except Failure Lexer := do
  let l ← l.markPlace
  let (token, c) ← scan l.cursor
  return { l.add token with cursor := c, keyAllowed := false }

/-- A text in quotes. -/
def quotedToken (double : Bool) (c : Cursor) : Except Failure (Token × Cursor) := do
  let (text, c) ← quotedScalar double c
  return (.scalar text false, c)

/-- A text in a block. -/
def blockToken (l : Lexer) (fold : Bool) : Except Failure Lexer := do
  let l ← l.forget
  let (text, c) ← blockScalar fold l.inner l.cursor
  return { l.add (.scalar text false) with cursor := c, keyAllowed := true }

/-- A plain text. -/
def plainToken (l : Lexer) : Except Failure Lexer := do
  let l ← l.markPlace
  let (text, c, crossed) := plainScalar l.inFlow l.inner l.cursor
  return { l.add (.scalar text true) with cursor := c, keyAllowed := crossed }

/-- The characters that begin something else than a plain text. -/
def isMark (c : Char) : Bool := "-?:,[]\x7b\x7d#&*!|>'\"%@`".toList.contains c

/-- A plain text begins here. -/
def startsPlain (l : Lexer) (x : Char) : Bool :=
  let next := l.cursor.peek 1
  (!endsWord (some x) && !isMark x) ||
    (!endsWord next && (x == '-' || (!l.inFlow && (x == '?' || x == ':'))))

/-- The next token. -/
def token (l : Lexer) (x : Char) : Except Failure Lexer :=
  let c := l.cursor
  let alone := l.inFlow || endsWord (c.peek 1)
  if x = '%' ∧ c.column = 0 then do
    let l ← l.between
    let (token, c) ← directiveToken c
    return { l.add token with cursor := c }
  else if c.column = 0 ∧ c.beginsWith '-' then do return (← l.between).addOver 3 .documentStart
  else if c.column = 0 ∧ c.beginsWith '.' then do return (← l.between).addOver 3 .documentEnd
  else if x = '[' then l.openFlow .flowListStart
  else if x = '\x7b' then l.openFlow .flowMapStart
  else if x = ']' then l.closeFlow .flowListEnd
  else if x = '\x7d' then l.closeFlow .flowMapEnd
  else if x = ',' then do
    let l ← l.forget
    return { l.addOver 1 .flowEntry with keyAllowed := true }
  else if x = '-' ∧ endsWord (c.peek 1) then l.blockEntry
  else if x = '?' ∧ alone then l.keyMark
  else if x = ':' ∧ alone then l.valueMark
  else if x = '*' then l.node fun c => do
    let (name, c) ← anchorName c.step
    return (.alias name, c)
  else if x = '&' then l.node fun c => do
    let (name, c) ← anchorName c.step
    return (.anchor name, c)
  else if x = '!' then l.node tagToken
  else if x = '|' ∧ !l.inFlow then l.blockToken false
  else if x = '>' ∧ !l.inFlow then l.blockToken true
  else if x = '\'' then l.node (quotedToken false)
  else if x = '"' then l.node (quotedToken true)
  else if l.startsPlain x then l.plainToken
  else .error Flaw.strayCharacter.toFailure

/-- The number of the first token that may still turn out to be a key. -/
def firstOpen (l : Lexer) : Nat :=
  l.places.foldl (fun n place =>
    match place with
    | some place => if l.isStale place then n else min n place.token
    | none => n) l.count

/-- The tokens of a document that cannot be read on from here. What may still turn out to be a key is
not known as anything else. -/
def broken (l : Lexer) (failure : Failure) : List Token :=
  (l.tokens.drop (l.count - l.firstOpen)).reverse ++ [.broken failure]

/-- What has been reached, if it is not the end: there no more text follows. -/
def reached? (l : Lexer) : Option Failure := if l.cursor.rest.isEmpty then l.obstacle else none

/-- The outcome of a step that may have reached what stands behind the text. A quote that is open there
is open only as far as the text goes. -/
def within (l : Lexer) (outcome : Except Failure Lexer) : Except Failure Lexer :=
  match outcome with
  | .ok after => after.reached?.elim (.ok after) .error
  | .error failure =>
    .error (if failure = Flaw.openQuote.toFailure then l.obstacle.getD failure else failure)

/-- The next token, or the end, where there is nothing. -/
def step (l : Lexer) : Except Failure (Lexer × Bool) := do
  let l ← (← l.within (.ok l.advance)).settle
  match l.cursor.next with
  | none => return ((← l.between).add .streamEnd, true)
  | some x => return (← l.within (l.token x), false)

/-- The tokens up to the end, with fuel for each. -/
def run : Nat → Lexer → List Token
  | 0, l => l.tokens.reverse
  | fuel + 1, l =>
    match l.step with
    | .error failure => l.broken failure
    | .ok (done, true) => done.tokens.reverse
    | .ok (after, false) => run fuel after

end Lexer

/-- The tokens of a document. -/
def Token.ofSource (source : Source) : List Token :=
  Lexer.run (source.text.length + 2)
    { cursor := Cursor.start source.text, obstacle := source.obstacle }

end Rirekisho.Yaml
