import Rirekisho.Command
import Rirekisho.Fault

namespace Rirekisho

variable {α : Type} [Scalar α]

/-- The points that are reached from a point by one way after the other, with that point. -/
def pathFrom (start : Point α) : List (Point α) → List (Point α)
  | [] => [start]
  | way :: ways => start :: pathFrom (start + way) ways

/-- The vertices of a polyline: its first point moved by an offset, and each next one at its way from
the last. -/
def vertices (positions : List (Point α)) (offset : Point α) : Except (Located Fault) (List (Point α)) :=
  match positions with
  | [] => .error ⟨.emptyPolyline, none, none, some "positions"⟩
  | first :: ways => .ok (pathFrom (first + offset) ways)

/-- The scales that bring an image from its natural size to the size that it should have. -/
def photoScale (target natural : Size α) : Except Fault (α × α) :=
  if Scalar.isNonpositive natural.width || Scalar.isNonpositive natural.height then
    .error (.imageSize (Scalar.text natural.width) (Scalar.text natural.height))
  else .ok (target.width / natural.width, target.height / natural.height)

/-- The corners of a box around the page, from the lower right one upwards. -/
def boxCorners (position : Point α) (size : Size α) : List (Point α) :=
  [⟨position.x + size.width, position.y⟩, ⟨position.x + size.width, position.y + size.height⟩,
    ⟨position.x, position.y + size.height⟩, ⟨position.x, position.y⟩]

/-- The corners of a frame that hangs from its upper left corner, from the lower left one to the
right. -/
def frameCorners (topLeft : Point α) (size : Size α) : List (Point α) :=
  [⟨topLeft.x, topLeft.y - size.height⟩, ⟨topLeft.x + size.width, topLeft.y - size.height⟩,
    ⟨topLeft.x + size.width, topLeft.y⟩, topLeft]

end Rirekisho
