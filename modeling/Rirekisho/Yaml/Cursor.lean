namespace Rirekisho.Yaml

/-- The character ends a line. -/
def isBreak (c : Char) : Bool :=
  c == '\n' || c == '\r' || c == '\x85' || c == '\u2028' || c == '\u2029'

/-- A space or a tab. -/
def isInline (c : Char) : Bool := c == ' ' || c == '\t'

/-- The line or the document ends here. -/
def endsLine : Option Char → Bool
  | none => true
  | some c => isBreak c

/-- A space follows, or the line ends. -/
def endsPart (next : Option Char) : Bool := next == some ' ' || endsLine next

/-- A space or a tab follows, or the line ends. -/
def endsWord (next : Option Char) : Bool := next == some '\t' || endsPart next

/-- A place in a document. -/
structure Cursor where
  rest : List Char
  index : Nat
  line : Nat
  column : Nat
  deriving Repr

namespace Cursor

/-- The front of a document. -/
def start (document : List Char) : Cursor := ⟨document, 0, 0, 0⟩

/-- The character after so many others. -/
def peek (c : Cursor) (n : Nat) : Option Char := c.rest[n]?

/-- The next character. -/
def next (c : Cursor) : Option Char := c.rest.head?

/-- The place after the next character. A byte order mark takes no column. -/
def step (c : Cursor) : Cursor :=
  match c.rest with
  | [] => c
  | x :: rest =>
    if isBreak x && !(x == '\r' && rest.head? == some '\n') then ⟨rest, c.index + 1, c.line + 1, 0⟩
    else ⟨rest, c.index + 1, c.line, if x = '\ufeff' then c.column else c.column + 1⟩

/-- The place after so many characters. -/
def skip : Nat → Cursor → Cursor
  | 0, c => c
  | n + 1, c => skip n c.step

/-- The characters that satisfy a test, and the place after them. -/
def span (c : Cursor) (p : Char → Bool) : List Char × Cursor :=
  let taken := c.rest.takeWhile p
  (taken, c.skip taken.length)

/-- The place after the characters that satisfy a test. -/
def skipWhile (c : Cursor) (p : Char → Bool) : Cursor := (c.span p).2

/-- The end of the line. -/
def toLineEnd (c : Cursor) : Cursor := c.skipWhile (!isBreak ·)

/-- The end of a line as it counts, and the place after it. -/
def takeBreak? (c : Cursor) : Option (Char × Cursor) :=
  match c.rest with
  | '\r' :: '\n' :: _ => some ('\n', c.skip 2)
  | x :: _ =>
    if x == '\u2028' || x == '\u2029' then some (x, c.step)
    else if isBreak x then some ('\n', c.step)
    else none
  | [] => none

/-- Three characters that stand alone follow. -/
def beginsWith (c : Cursor) (x : Char) : Bool :=
  [x, x, x].isPrefixOf c.rest && endsWord (c.peek 3)

/-- A mark between documents follows. -/
def atSeparator (c : Cursor) : Bool := c.beginsWith '-' || c.beginsWith '.'

/-- The end of the line after blanks and a comment, if nothing else is on it. -/
def restOfLine? (c : Cursor) : Option Cursor :=
  let c := c.skipWhile (· == ' ')
  let c := if c.next = some '#' then c.toLineEnd else c
  if endsLine c.next then
    some (match c.takeBreak? with
      | some (_, c) => c
      | none => c)
  else none

end Cursor

end Rirekisho.Yaml
