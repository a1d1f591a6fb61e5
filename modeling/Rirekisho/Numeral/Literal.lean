import Rirekisho.Text.Blank
import Rirekisho.Text.Digit
import Rirekisho.Text.Line

namespace Rirekisho.Numeral

/-- The value of an ASCII digit. -/
def asciiDigit? (c : Char) : Option Nat :=
  if '0' ≤ c ∧ c ≤ '9' then some (c.toNat - '0'.toNat) else none

/-- The number with the given decimal digits. -/
def ofDigits (digits : List Nat) : Nat := digits.foldl (fun n d => 10 * n + d) 0

/-- An ASCII letter in lower case; any other character is kept. -/
def lowerAscii (c : Char) : Char :=
  if 'A' ≤ c ∧ c ≤ 'Z' then Char.ofNat (c.toNat + 32) else c

/-- The digits of one group: there is at least one. -/
def group? (digit : Char → Option Nat) (cs : List Char) : Option (List Nat) :=
  if cs.isEmpty then none else cs.mapM digit

/-- The digits of groups joined by single underscores. -/
def digits? (digit : Char → Option Nat) (cs : List Char) : Option (List Nat) :=
  ((Text.split '_' cs).mapM (group? digit)).map List.flatten

/-- A leading sign, taken off: whether it is a minus, and what follows. -/
def takeSign : List Char → Bool × List Char
  | '-' :: rest => (true, rest)
  | '+' :: rest => (false, rest)
  | cs => (false, cs)

/-- The most digits that a written integer may have. -/
def integerDigitLimit : Nat := 4300

/-- An integer: a sign or none, and digits up to the limit. -/
def integer? (digit : Char → Option Nat) (cs : List Char) : Option Int :=
  let (negative, rest) := takeSign cs
  match digits? digit rest with
  | none => none
  | some digits =>
    if digits.length ≤ integerDigitLimit then
      let n := ofDigits digits
      some (if negative then -(n : Int) else n)
    else none

/-- A number with a decimal exponent, as written. -/
structure Decimal where
  mantissa : Nat
  exponent : Int
  deriving Repr, DecidableEq

/-- The nearest floating-point number. The powers of ten that floating-point numbers reach lie well
between those at which a decimal counts as infinity or as zero at once. -/
def Decimal.toFloat (d : Decimal) : Float :=
  if d.mantissa = 0 then 0.0
  else if 400 < d.exponent then 1.0 / 0.0
  else if d.exponent + d.mantissa.log2 < -400 then 0.0
  else Float.ofScientific d.mantissa (d.exponent < 0) d.exponent.natAbs

/-- The digits before or after the point, where there may be none. -/
def digitsOrNone? (digit : Char → Option Nat) (cs : List Char) : Option (List Nat) :=
  if cs.isEmpty then some [] else digits? digit cs

/-- Digits with at most one point among them, before or after all of them too. -/
def fraction? (digit : Char → Option Nat) (cs : List Char) : Option Decimal :=
  match Text.split '.' cs with
  | [whole] => (digits? digit whole).map fun w => ⟨ofDigits w, 0⟩
  | [whole, part] => do
    let w ← digitsOrNone? digit whole
    let p ← digitsOrNone? digit part
    if w.isEmpty && p.isEmpty then none else some ⟨ofDigits (w ++ p), -(p.length : Int)⟩
  | _ => none

/-- An exponent: a sign or none, and digits. -/
def exponent? (digit : Char → Option Nat) (cs : List Char) : Option Int :=
  let (negative, rest) := takeSign cs
  (digits? digit rest).map fun e => if negative then -(ofDigits e : Int) else ofDigits e

/-- A number without sign, with an exponent after the letter e or without. -/
def decimal? (digit : Char → Option Nat) (cs : List Char) : Option Decimal :=
  match Text.split 'e' (cs.map lowerAscii) with
  | [digits] => fraction? digit digits
  | [digits, power] => do
    let d ← fraction? digit digits
    let e ← exponent? digit power
    some ⟨d.mantissa, d.exponent + e⟩
  | _ => none

/-- The words for infinity and for no number, and decimal numbers, without sign. -/
def magnitude? (digit : Char → Option Nat) (cs : List Char) : Option Float :=
  let word := String.ofList (cs.map lowerAscii)
  if word = "inf" ∨ word = "infinity" then some (1.0 / 0.0)
  else if word = "nan" then some (0.0 / 0.0)
  else (decimal? digit cs).map Decimal.toFloat

/-- A floating-point number: a sign or none, and a magnitude. -/
def float? (digit : Char → Option Nat) (cs : List Char) : Option Float :=
  let (negative, rest) := takeSign cs
  (magnitude? digit rest).map fun x => if negative then -x else x

/-- A text without its underscores, none of which stands at an end or beside another. -/
def dropUnderscores? (cs : List Char) : Option (List Char) :=
  let groups := Text.split '_' cs
  if groups.any List.isEmpty then none else some groups.flatten

/-- The decimal text of an integer. -/
def integerText (n : Int) : String :=
  let digits := String.ofList (Nat.toDigits 10 n.natAbs)
  if n < 0 then "-" ++ digits else digits

example : integer? asciiDigit? "-1_000".toList = some (-1000) := by decide
example : integer? asciiDigit? "1__0".toList = none := by decide
example : integer? Text.digitValue? "１２".toList = some 12 := by decide
example : decimal? asciiDigit? "1_0.50E-3".toList = some ⟨1050, -5⟩ := by decide
example : decimal? asciiDigit? ".".toList = none := by decide

end Rirekisho.Numeral
