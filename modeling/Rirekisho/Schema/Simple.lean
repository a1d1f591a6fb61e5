import Rirekisho.Options
import Rirekisho.Schema.Checked
import Rirekisho.Storage.Path
import Rirekisho.Text.Blank
import Rirekisho.Text.Quoted

namespace Rirekisho.Schema

variable {β : Type}

/-- What a value says when it is taken for a text. -/
inductive Wording where
  | words (s : String)
  /-- Bytes that are not UTF-8. -/
  | garbled
  /-- The value is no text. -/
  | none
  deriving Repr, DecidableEq

/-- A text says itself, and bytes say what they are in UTF-8. -/
def Wording.of : Value → Wording
  | .text s => .words s
  | .bytes data =>
    match String.fromUTF8? ⟨data.toArray⟩ with
    | some s => .words s
    | .none => .garbled
  | _ => .none

/-- A text. -/
def text (v : Value) : Checked String :=
  match Wording.of v with
  | .words s => .valid s
  | .garbled => .problem "Input should be a valid string, unable to parse raw data as a unicode string"
  | .none => .problem "Input should be a valid string"

/-- A text, or a number for its text. An integer with too many digits has none. -/
def looseText : Value → Checked String
  | .int n =>
    let digits := Nat.toDigits 10 n.natAbs
    if Numeral.integerDigitLimit < digits.length then .stopped .longInteger
    else .valid (Numeral.integerText n)
  | .float x => .valid (Numeral.floatText x)
  | v => text v

/-- The number that a text without underscores is. -/
def plainNumber? (cs : List Char) : Option Float :=
  if cs.contains '_' then none else Numeral.float? Numeral.asciiDigit? cs

/-- The number that a text is read as: decimal, with the words for infinity and for no number. It may
have white space around it, or underscores inside of it, but not both. -/
def numberOfText? (s : String) : Option Float :=
  (plainNumber? (Text.trim s.toList)).or
    ((Numeral.dropUnderscores? s.toList).bind plainNumber?)

/-- The problem of a text that is no number. -/
def notNumberText : Checked β :=
  .problem "Input should be a valid number, unable to parse string as a number"

/-- A number. A whole number beyond the largest floating-point number is none. -/
def number (v : Value) : Checked Float :=
  match Wording.of v, v with
  | .words s, _ =>
    match numberOfText? s with
    | some x => .valid x
    | none => notNumberText
  | .garbled, _ => notNumberText
  | .none, .bool b => .valid (if b then 1.0 else 0.0)
  | .none, .float x => .valid x
  | .none, .int n =>
    let x := Float.ofScientific n.natAbs false 0
    if x.isInf then .problem "Input should be a valid number"
    else .valid (if n < 0 then -x else x)
  | .none, _ => .problem "Input should be a valid number"

/-- The problem of a text that is no integer. -/
def notIntegerText : Checked β :=
  .problem "Input should be a valid integer, unable to parse string as an integer"

/-- The problem of a number that is too long for an integer. -/
def integerTooLong : Checked β :=
  .problem "Unable to parse input string as an integer, exceeded maximum size"

/-- What follows zeros and underscores at the front: a text from another digit or from a minus on,
or a point with the character before it. Of zeros alone the last character is left. -/
def afterZeros? (last : Char) : List Char → Option (List Char)
  | [] => some [last]
  | c :: rest =>
    if c = '0' ∨ c = '_' then afterZeros? c rest
    else if c = '-' ∨ ('1' ≤ c ∧ c ≤ '9') then some (c :: rest)
    else if c = '.' then some (last :: c :: rest)
    else none

/-- The text without the zeros at its front. It has to begin with a digit or a minus. -/
def dropZeros? : List Char → Option (List Char)
  | [] => none
  | c :: rest =>
    if c = '0' then afterZeros? c rest
    else if c = '-' ∨ ('1' ≤ c ∧ c ≤ '9') then some (c :: rest)
    else none

/-- The text without a plus at its front. -/
def dropPlus : List Char → List Char
  | '+' :: rest => if rest.head? = some '-' then '+' :: rest else rest
  | cs => cs

/-- The text without a point and the zeros that alone follow it. -/
def dropZeroFraction (cs : List Char) : List Char :=
  match cs.dropWhile (· ≠ '.') with
  | _ :: part =>
    if !part.isEmpty && part.all (· == '0') then cs.takeWhile (· ≠ '.') else cs
  | [] => cs

/-- The text of an integer in its plain form: what may be left out of it is. -/
def plainIntegerText? (cs : List Char) : Option (List Char) := do
  let cs := dropZeroFraction (← dropZeros? (dropPlus (Text.trim cs)))
  return (Numeral.dropUnderscores? cs).getD cs

/-- An integer in its plain form: a minus or none, and digits, the first of which is zero only if it
is alone. -/
def plainInteger (cs : List Char) : Checked Int :=
  let (negative, unsigned) := if cs.head? = some '-' then (true, cs.tail) else (false, cs)
  let run := unsigned.takeWhile Char.isDigit
  let n : Nat := Numeral.ofDigits (run.filterMap Numeral.asciiDigit?)
  if run.head? = some '0' ∧ unsigned ≠ ['0'] then notIntegerText
  else if Numeral.integerDigitLimit < (cs.length - unsigned.length) + run.length then integerTooLong
  else if run = [] ∨ run ≠ unsigned then notIntegerText
  else .valid (if negative then -(n : Int) else n)

/-- The integer that a text is read as. -/
def integerOfText (s : String) : Checked Int :=
  match plainIntegerText? s.toList with
  | some cs => plainInteger cs
  | none => notIntegerText

/-- A number without fraction as an integer, if it is in the range of 64 bits. -/
def integerOfFloat (x : Float) : Checked Int :=
  if x.isNaN || x.isInf then .problem "Input should be a finite number"
  else if x.floor != x then
    .problem "Input should be a valid integer, got a number with a fractional part"
  else if -9223372036854775808.0 < x && x < 9223372036854775808.0 then .valid x.toInt64.toInt
  else integerTooLong

/-- An integer. -/
def integer (v : Value) : Checked Int :=
  match Wording.of v, v with
  | .words s, _ => integerOfText s
  | .garbled, _ => notIntegerText
  | .none, .bool b => .valid (if b then 1 else 0)
  | .none, .int n => .valid n
  | .none, .float x => integerOfFloat x
  | .none, _ => .problem "Input should be a valid integer"

/-- An integer between bounds. -/
def between (low : Int) (high : Option Int) (n : Int) : Checked Nat :=
  match high with
  | some high =>
    if high < n then
      .problem ("Input should be less than or equal to " ++ Numeral.integerText high)
    else if n < low then
      .problem ("Input should be greater than or equal to " ++ Numeral.integerText low)
    else .valid n.toNat
  | none =>
    if n < low then
      .problem ("Input should be greater than or equal to " ++ Numeral.integerText low)
    else .valid n.toNat

/-- An integer that is not negative. -/
def count (v : Value) : Checked Nat := (integer v).also (between 0 none)

/-- The number of a month. -/
def month (v : Value) : Checked Nat := (integer v).also (between 1 (some 12))

/-- The problem of a value that tells neither true nor false. -/
def notTruth : Checked β :=
  .problem "Input should be a valid boolean, unable to interpret input"

/-- The truth value that an integer stands for. -/
def truthOfInteger : Int → Checked Bool
  | 0 => .valid false
  | 1 => .valid true
  | _ => notTruth

/-- The truth value that a word stands for, in capitals or not. -/
def truthOfText (s : String) : Checked Bool :=
  let word := String.ofList (s.toList.map Numeral.lowerAscii)
  if word ∈ ["0", "off", "f", "false", "n", "no"] then .valid false
  else if word ∈ ["1", "on", "t", "true", "y", "yes"] then .valid true
  else notTruth

/-- A truth value. -/
def truth (v : Value) : Checked Bool :=
  match Wording.of v, v with
  | .words s, _ => truthOfText s
  | .garbled, _ => notTruth
  | .none, .bool b => .valid b
  | .none, .int n =>
    if -9223372036854775808 ≤ n ∧ n ≤ 9223372036854775807 then truthOfInteger n
    else .problem "Input should be a valid boolean"
  | .none, .float x =>
    match (integerOfFloat x).value? with
    | some n => truthOfInteger n
    | none => .problem "Input should be a valid boolean"
  | .none, _ => .problem "Input should be a valid boolean"

/-- A path. -/
def path : Value → Checked Path
  | .text s => .valid (Path.ofText s)
  | _ => .problem "Input is not a valid path for <class 'pathlib.Path'>"

/-- A line style by its word. -/
def lineStyle (v : Value) : Checked LineStyle :=
  match v with
  | .text s =>
    match LineStyle.ofName? s with
    | some style => .valid style
    | none => .problem "Input should be 'solid' or 'dashed'"
  | _ => .problem "Input should be 'solid' or 'dashed'"

/-- Exactly one text. -/
def literal (s : String) : Value → Checked Unit
  | .text t => if t = s then .valid () else .problem ("Input should be " ++ Text.quoted s)
  | _ => .problem ("Input should be " ++ Text.quoted s)

/-- A value, or nothing. -/
def nullable (check : Value → Checked β) : Value → Checked (Option β)
  | .null => .valid none
  | v => (check v).map some

/-- Values of one kind, each known by its number from the given one on. -/
def each (check : Value → Checked β) (number : Nat) : List Value → Checked (List β)
  | [] => .valid []
  | v :: rest =>
    List.cons <$> (check v).within (Numeral.integerText number) <*> each check (number + 1) rest

/-- The members of a value that is a list or as good as one. -/
def members? : Value → Option (List Value)
  | .list items | .set items => some items
  | _ => none

/-- A list of values of one kind. -/
def list (check : Value → Checked β) (v : Value) : Checked (List β) :=
  match members? v with
  | some items => each check 0 items
  | none => .problem "Input should be a valid list"

/-- A list of values of one kind with at least one member. -/
def someList (check : Value → Checked β) (v : Value) : Checked (List β) :=
  match members? v with
  | some items => (each check 0 items).also fun xs =>
      if xs.isEmpty then
        .problem "Tuple should have at least 1 item after validation, not 0"
      else .valid xs
  | none => .problem "Input should be a valid tuple"

/-- The entries of a mapping that stands for something with a name. -/
def entriesOf (name : String) (check : Entries → Checked β) : Value → Checked β
  | .map entries => check entries
  | _ => .problem ("Input should be a valid dictionary or instance of " ++ name)

end Rirekisho.Schema
