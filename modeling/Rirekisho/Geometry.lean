import Rirekisho.Numeral.Literal
import Rirekisho.Numeral.Shortest

namespace Rirekisho

/-- Numbers that lengths are made of: what the layout needs of them. Drawing uses floating-point
numbers; rational numbers tell what is drawn without rounding. -/
class Scalar (α : Type) extends Add α, Sub α, Mul α, Div α, OfScientific α where
  /-- The number as a length. -/
  ofNat : Nat → α
  /-- The length is zero or less. -/
  isNonpositive : α → Bool
  /-- The length is zero, so that nothing can be divided by it. -/
  isZero : α → Bool
  /-- The number is beyond all bounds. -/
  isInfinite : α → Bool
  /-- The number is none, as what is left of two infinite ones. -/
  isUndefined : α → Bool
  /-- The number as messages show it. -/
  text : α → String

instance : Scalar Float where
  ofNat n := Float.ofScientific n false 0
  isNonpositive x := x ≤ 0.0
  isZero x := x == 0.0
  isInfinite := Float.isInf
  isUndefined := Float.isNaN
  text := Numeral.floatText

instance : Scalar Rat where
  ofNat n := n
  isNonpositive x := x ≤ 0
  isZero x := x == 0
  isInfinite _ := false
  isUndefined _ := false
  text x := Numeral.integerText x.num ++ "/" ++ Numeral.integerText x.den

/-- A point of the page, or the way from one point to another. -/
structure Point (α : Type) where
  x : α
  y : α
  deriving Repr, BEq, DecidableEq

/-- A width and a height. -/
structure Size (α : Type) where
  width : α
  height : α
  deriving Repr, BEq, DecidableEq

variable {α : Type} [Scalar α]

instance : Add (Point α) := ⟨fun p q => ⟨p.x + q.x, p.y + q.y⟩⟩

instance : Sub (Point α) := ⟨fun p q => ⟨p.x - q.x, p.y - q.y⟩⟩

/-- Points as millimetres. -/
def millimetresOfPoints (points : α) : α := points * 25.4 / 72.0

/-- Millimetres as points. -/
def pointsOfMillimetres (millimetres : α) : α := millimetres * 72.0 / 25.4

end Rirekisho
