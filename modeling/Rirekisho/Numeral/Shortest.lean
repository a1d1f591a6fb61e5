namespace Rirekisho.Numeral

/-- A floating-point number taken apart. A finite one is a mantissa times a power of two; it is
narrow below when the next smaller number is only half as far away as the next larger. -/
inductive Parts where
  | notANumber
  | infinite (negative : Bool)
  | finite (negative : Bool) (mantissa : Nat) (power : Int) (narrow : Bool)
  deriving Repr, DecidableEq

/-- The parts of a number in the binary interchange format of 64 bits. -/
def Parts.ofBits (bits : Nat) : Parts :=
  let negative := bits / Nat.pow 2 63 % 2 == 1
  let biased : Nat := bits / Nat.pow 2 52 % 2048
  let fraction := bits % Nat.pow 2 52
  if biased = 2047 then
    if fraction = 0 then .infinite negative else .notANumber
  else if biased = 0 then .finite negative fraction (-1074) false
  else .finite negative (fraction + Nat.pow 2 52) ((biased : Int) - 1075) (fraction == 0 && biased != 1)

/-- The decimals that read back as one number, counted in quarters of the unit at hand: they lie
between the bounds, which belong to them or not. -/
structure Neighbourhood where
  low : Nat
  value : Nat
  high : Nat
  closed : Bool

/-- The decimal lies in the neighbourhood. -/
def Neighbourhood.holds (n : Neighbourhood) (x : Nat) : Bool :=
  if n.closed then n.low ≤ x && x ≤ n.high else n.low < x && x < n.high

/-- The multiple of a step nearest to the value among its two neighbours in the neighbourhood,
counted in steps. Halfway between both, the even one is taken. -/
def Neighbourhood.hit? (n : Neighbourhood) (step : Nat) : Option Nat :=
  let below := n.value / step
  let above := below + 1
  match n.holds (below * step), n.holds (above * step) with
  | true, true =>
    let twice := 2 * n.value
    let middle := (below + above) * step
    some (if twice < middle then below else if middle < twice then above
      else if below % 2 = 0 then below else above)
  | true, false => some below
  | false, true => some above
  | false, false => none

/-- The coarsest decimal grid with a hit, at most as coarse as asked: the hit, counted in steps of
the grid, and the power of ten of the step. Whole units always hit. -/
def Neighbourhood.shortest (n : Neighbourhood) : Nat → Nat × Nat
  | 0 => (n.value / 4, 0)
  | power + 1 =>
    match n.hit? (4 * Nat.pow 10 (power + 1)) with
    | some count => (count, power + 1)
    | none => n.shortest power

/-- The shortest decimal of a positive number: its digits, and the power of ten of the last. -/
def shortestDecimal (mantissa : Nat) (power : Int) (narrow : Bool) : Nat × Int :=
  let places := (-power).toNat
  let unit := Nat.pow 5 places * Nat.pow 2 power.toNat
  let n : Neighbourhood :=
    ⟨(4 * mantissa - if narrow then 1 else 2) * unit, 4 * mantissa * unit,
      (4 * mantissa + 2) * unit, mantissa % 2 == 0⟩
  let size := (Nat.toDigits 10 (mantissa * unit)).length
  let (digits, ten) := n.shortest (size - 1)
  (digits, (ten : Int) - places)

/-- The exponent of ten as it is written: with its sign and at least two digits. -/
def exponentText (e : Int) : List Char :=
  let digits := Nat.toDigits 10 e.natAbs
  (if e < 0 then '-' else '+') :: (if digits.length < 2 then '0' :: digits else digits)

/-- Digits with a point after the first so many. Missing digits are zeros; there is always a digit
on both sides of the point. -/
def placePoint (digits : List Char) (point : Int) : List Char :=
  if point ≤ 0 then '0' :: '.' :: (List.replicate (-point).toNat '0' ++ digits)
  else
    let n := point.toNat
    let whole := digits.take n ++ List.replicate (n - digits.length) '0'
    let part := digits.drop n
    whole ++ '.' :: (if part.isEmpty then ['0'] else part)

/-- The text of a decimal with its last zeros dropped: positional from 10⁻⁴ up to 10¹⁶, and with an
exponent outside. -/
def decimalText (digits : Nat) (ten : Int) : List Char :=
  let all := Nat.toDigits 10 digits
  let point := all.length + ten
  let kept := (all.reverse.dropWhile (· == '0')).reverse
  if -4 < point ∧ point ≤ 16 then placePoint kept point
  else match kept with
    | [] => ['0']
    | [d] => d :: 'e' :: exponentText (point - 1)
    | d :: more => d :: '.' :: (more ++ 'e' :: exponentText (point - 1))

/-- The text of a number taken apart. -/
def Parts.text : Parts → String
  | .notANumber => "nan"
  | .infinite negative => if negative then "-inf" else "inf"
  | .finite negative 0 _ _ => if negative then "-0.0" else "0.0"
  | .finite negative mantissa power narrow =>
    let (digits, ten) := shortestDecimal mantissa power narrow
    let cs := decimalText digits ten
    String.ofList (if negative then '-' :: cs else cs)

/-- The shortest text that reads back as the number. -/
def floatText (x : Float) : String := (Parts.ofBits x.toBits.toNat).text

end Rirekisho.Numeral
