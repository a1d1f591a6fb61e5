import Rirekisho.Value.Json
import Rirekisho.Yaml.Cursor
import Rirekisho.Yaml.Flaw

namespace Rirekisho.Yaml

/-- What the ends of lines count as: the first and those after it. -/
def folded (first : Char) (more : List Char) : List Char :=
  if first != '\n' then first :: more else if more.isEmpty then [' '] else more

/-- The ends of empty lines inside of a quoted text. -/
def quotedBreaks : Nat → Cursor → List Char → Except Failure (List Char × Cursor)
  | 0, c, done => .ok (done.reverse, c)
  | fuel + 1, c, done =>
    if c.atSeparator then .error Flaw.quoteAcross.toFailure
    else
      let c := c.skipWhile isInline
      match c.takeBreak? with
      | some (b, c) => quotedBreaks fuel c (b :: done)
      | none => .ok (done.reverse, c)

/-- Blanks and ends of lines inside of a quoted text. -/
def quotedSpace (c : Cursor) : Except Failure (List Char × Cursor) :=
  let (blanks, c) := c.span isInline
  match c.takeBreak? with
  | some (b, c) =>
    match quotedBreaks (c.rest.length + 1) c [] with
    | .ok (more, c) => .ok (folded b more, c)
    | .error e => .error e
  | none => .ok (blanks, c)

/-- The character that an escape by letter stands for. -/
def lettered? : Char → Option Char
  | '0' => some '\x00'
  | 'a' => some '\x07'
  | 'b' => some '\x08'
  | 't' | '\t' => some '\t'
  | 'n' => some '\n'
  | 'v' => some '\x0b'
  | 'f' => some '\x0c'
  | 'r' => some '\r'
  | 'e' => some '\x1b'
  | ' ' => some ' '
  | '"' => some '"'
  | '\\' => some '\\'
  | '/' => some '/'
  | 'N' => some '\x85'
  | '_' => some '\xa0'
  | 'L' => some '\u2028'
  | 'P' => some '\u2029'
  | _ => none

/-- The number of digits of an escape by number. -/
def digitCount? : Char → Option Nat
  | 'x' => some 2
  | 'u' => some 4
  | 'U' => some 8
  | _ => none

/-- The character with a number. Half a pair is no character; the one for such cases stands in its
place. -/
def numberedCharacter (n : Nat) : Except Failure Char :=
  if 0xd800 ≤ n ∧ n < 0xe000 then .ok '\ufffd'
  else if n < 0x110000 then .ok (Char.ofNat n)
  else .error (if n < 0x80000000 then .badLiteral else .overflow)

/-- What an escape stands for. -/
def escaped (c : Cursor) : Except Failure (List Char × Cursor) :=
  let c := c.step
  match c.next with
  | none => .error Flaw.badEscape.toFailure
  | some x =>
    match lettered? x, digitCount? x with
    | some y, _ => .ok ([y], c.step)
    | none, some count =>
      let c := c.step
      let digits := c.rest.take count
      if digits.length < count then .error Flaw.badEscape.toFailure
      else
        match Json.ofHex? digits with
        | none => .error Flaw.badEscape.toFailure
        | some n =>
          match numberedCharacter n with
          | .ok y => .ok ([y], c.skip count)
          | .error e => .error e
    | none, none =>
      match c.takeBreak? with
      | some (_, c) => quotedBreaks (c.rest.length + 1) c []
      | none => .error Flaw.badEscape.toFailure

/-- The characters of a quoted text that stand for themselves. -/
def isOrdinary (double : Bool) (c : Char) : Bool :=
  !isInline c && !isBreak c && (if double then c != '"' && c != '\\' else c != '\'')

/-- The rest of a quoted text, and the place after its quote. -/
def quotedRest (double : Bool) : Nat → Cursor → List (List Char) →
    Except Failure (List Char × Cursor)
  | 0, _, _ => .error Flaw.openQuote.toFailure
  | fuel + 1, c, done =>
    match c.rest with
    | [] => .error Flaw.openQuote.toFailure
    | x :: more =>
      if isOrdinary double x then
        let (run, c) := c.span (isOrdinary double)
        quotedRest double fuel c (run :: done)
      else if !double && x == '\'' && more.head? == some '\'' then
        quotedRest double fuel (c.skip 2) (['\''] :: done)
      else if double && x == '\\' then
        match escaped c with
        | .ok (cs, c) => quotedRest double fuel c (cs :: done)
        | .error e => .error e
      else if isInline x || isBreak x then
        match quotedSpace c with
        | .ok (cs, c) => quotedRest double fuel c (cs :: done)
        | .error e => .error e
      else .ok (done.reverse.flatten, c.step)

/-- A text in quotes, and the place after it. -/
def quotedScalar (double : Bool) (c : Cursor) : Except Failure (List Char × Cursor) :=
  quotedRest double (c.rest.length + 1) c.step []

/-- The brackets and the comma between brackets. -/
def isFlowMark (c : Char) : Bool := c == ',' || c == '[' || c == ']' || c == '\x7b' || c == '\x7d'

/-- The run of characters at the front that belong to a plain text. Between brackets it ends at
commas and brackets too. -/
def plainRun (flow : Bool) : List Char → List Char
  | [] => []
  | x :: rest =>
    if endsWord (some x) then []
    else if x = ':' && (endsWord rest.head? || (flow && rest.head?.any isFlowMark)) then []
    else if flow && (x == '?' || isFlowMark x) then []
    else x :: plainRun flow rest

/-- The ends of empty lines after a plain text, up to the next text or a mark between documents, and
whether there is such a mark. -/
def plainBreaks : Nat → Cursor → List Char → List Char × Cursor × Bool
  | 0, c, done => (done.reverse, c, false)
  | fuel + 1, c, done =>
    if c.next = some ' ' then plainBreaks fuel c.step done
    else
      match c.takeBreak? with
      | some (b, c) =>
        if c.atSeparator then (done.reverse, c, true) else plainBreaks fuel c (b :: done)
      | none => (done.reverse, c, false)

/-- What stands between two parts of a plain text, the place after it, and whether a line ends. -/
def plainSpace (c : Cursor) : List Char × Cursor × Bool :=
  let (blanks, c) := c.span (· == ' ')
  match c.takeBreak? with
  | some (b, c) =>
    if c.atSeparator then ([], c, true)
    else
      match plainBreaks (c.rest.length + 1) c [] with
      | (_, c, true) => ([], c, true)
      | (more, c, false) => (folded b more, c, true)
  | none => (blanks, c, false)

/-- The rest of a plain text whose lines are indented, the place after it, and whether a line ended
there. -/
def plainRest (flow : Bool) (indent : Nat) : Nat → Cursor → List (List Char) → List Char → Bool →
    List Char × Cursor × Bool
  | 0, c, done, _, crossed => (done.reverse.flatten, c, crossed)
  | fuel + 1, c, done, space, crossed =>
    let run := if c.next = some '#' then [] else plainRun flow c.rest
    if run.isEmpty then (done.reverse.flatten, c, crossed)
    else
      let done := run :: space :: done
      let (space, c, crossed) := plainSpace (c.skip run.length)
      if space.isEmpty || c.next == some '#' || (!flow && c.column < indent) then
        (done.reverse.flatten, c, crossed)
      else plainRest flow indent fuel c done space crossed

/-- A plain text, the place after it, and whether a line ended there. -/
def plainScalar (flow : Bool) (indent : Nat) (c : Cursor) : List Char × Cursor × Bool :=
  plainRest flow indent (c.rest.length + 1) c [] [] false

/-- What the header of a block says: whether the last ends of lines are all kept or all dropped, and
how far the lines are indented. -/
structure BlockHeader where
  keep : Option Bool
  increment : Option Nat
  deriving Repr

/-- The sign that says what happens to the last ends of lines. -/
def takeKeep (c : Cursor) : Option Bool × Cursor :=
  match c.next with
  | some '+' => (some true, c.step)
  | some '-' => (some false, c.step)
  | _ => (none, c)

/-- The digit that says how far lines are indented. It is not zero. -/
def takeIncrement (c : Cursor) : Except Failure (Option Nat × Cursor) :=
  match c.next.bind Numeral.asciiDigit? with
  | none => .ok (none, c)
  | some 0 => .error Flaw.badHeader.toFailure
  | some n => .ok (some n, c.step)

/-- The header of a block: the sign and the digit in either order. -/
def blockHeader (c : Cursor) : Except Failure (BlockHeader × Cursor) := do
  let (before, c) := takeKeep c
  let (increment, c) ← takeIncrement c
  let (after, c) := if before.isNone && increment.isSome then takeKeep c else (none, c)
  if !endsPart c.next then throw Flaw.badHeader.toFailure
  match c.restOfLine? with
  | some c => return (⟨before.or after, increment⟩, c)
  | none => throw Flaw.badHeader.toFailure

/-- The ends of empty lines at the front of a block, the place after them, and the widest of their
indentations. -/
def blockIndentation : Nat → Cursor → List Char → Nat → List Char × Cursor × Nat
  | 0, c, done, widest => (done.reverse, c, widest)
  | fuel + 1, c, done, widest =>
    if c.next = some ' ' then
      let c := c.step
      blockIndentation fuel c done (max widest c.column)
    else
      match c.takeBreak? with
      | some (b, c) => blockIndentation fuel c (b :: done) widest
      | none => (done.reverse, c, widest)

/-- The place after the spaces up to a column. -/
def indentTo (column : Nat) : Nat → Cursor → Cursor
  | 0, c => c
  | fuel + 1, c =>
    if c.column < column && c.next == some ' ' then indentTo column fuel c.step else c

/-- The ends of empty lines in a block, and the place after them. -/
def blockBreaks (indent : Nat) : Nat → Cursor → List Char → List Char × Cursor
  | 0, c, done => (done.reverse, c)
  | fuel + 1, c, done =>
    let c := indentTo indent c.rest.length c
    match c.takeBreak? with
    | some (b, c) => blockBreaks indent fuel c (b :: done)
    | none => (done.reverse, c)

/-- The next character is neither a space nor a tab. -/
def startsFlush (c : Cursor) : Bool := !(c.next.any isInline)

/-- The lines of a block, the end of the last one, the ends of the empty lines after it, and the
place after them. -/
def blockLines (fold : Bool) (indent : Nat) : Nat → Cursor → List Char → List (List Char) →
    List Char × List Char × List Char × Cursor
  | 0, c, breaks, done => (done.reverse.flatten, [], breaks, c)
  | fuel + 1, c, breaks, done =>
    let flush := startsFlush c
    let (text, c) := c.span (!isBreak ·)
    let done := text :: breaks :: done
    let (ending, c) := match c.takeBreak? with
      | some (b, c) => ([b], c)
      | none => ([], c)
    let (breaks, c) := blockBreaks indent (c.rest.length + 1) c []
    if c.column = indent && !c.rest.isEmpty then
      let joint :=
        if fold && ending == ['\n'] && flush && startsFlush c then
          if breaks.isEmpty then [' '] else []
        else ending
      blockLines fold indent fuel c breaks (joint :: done)
    else (done.reverse.flatten, ending, breaks, c)

/-- A text in a block that stands in something indented, and the place after it. -/
def blockScalar (fold : Bool) (parent : Nat) (c : Cursor) :
    Except Failure (List Char × Cursor) := do
  let (header, c) ← blockHeader c.step
  let least := max 1 parent
  let (breaks, c, indent) := match header.increment with
    | none =>
      let (breaks, c, widest) := blockIndentation (c.rest.length + 1) c [] 0
      (breaks, c, max least widest)
    | some n =>
      let indent := least + n - 1
      let (breaks, c) := blockBreaks indent (c.rest.length + 1) c []
      (breaks, c, indent)
  let (text, ending, breaks, c) :=
    if c.column = indent && !c.rest.isEmpty then
      blockLines fold indent (c.rest.length + 1) c breaks []
    else ([], [], breaks, c)
  let ending := if header.keep = some false then [] else ending
  let breaks := if header.keep = some true then breaks else []
  return (text ++ ending ++ breaks, c)

end Rirekisho.Yaml
