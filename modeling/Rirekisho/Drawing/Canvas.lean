import Rirekisho.Geometry
import Rirekisho.Options
import Rirekisho.Storage.Path

namespace Rirekisho

/-- A step of a path. -/
inductive PathStep (α : Type) where
  | move (x y : α)
  | line (x y : α)
  | close
  deriving Repr, DecidableEq

/-- A call on the canvas. -/
inductive CanvasCall (α : Type) where
  /-- The canvas for a file, with its width and height. -/
  | open (file : Path) (width height : α)
  | title (title : String)
  | font (face : String) (size : α)
  | text (x y : α) (text : String)
  | lineWidth (width : α)
  | solid
  /-- Dashes: the lengths that are drawn and left out in turn. -/
  | dashes (on off : α)
  /-- A path that is drawn and not filled. -/
  | path (steps : List (PathStep α))
  | image (file : Path) (x y width height : α)
  /-- The page ended and the next begun. -/
  | nextPage
  | save
  deriving Repr, DecidableEq

variable {α : Type} [Scalar α]

/-- The points in a millimetre. -/
def pointsPerMillimetre : α := 72.0 / 2.54 * 0.1

/-- A length in millimetres as one of the canvas. -/
def onCanvas (millimetres : α) : α := millimetres * pointsPerMillimetre

/-- The call that sets how a line is drawn: dashes and gaps are a point long. -/
def LineStyle.canvas : LineStyle → CanvasCall α
  | .solid => .solid
  | .dashed => .dashes 1.0 1.0

/-- A vertex as the step of a path that begins there. -/
def Point.moveStep (p : Point α) : PathStep α := .move (onCanvas p.x) (onCanvas p.y)

/-- A vertex as the step of a path that goes on to it. -/
def Point.lineStep (p : Point α) : PathStep α := .line (onCanvas p.x) (onCanvas p.y)

/-- The steps of a path through points, and back to the first one if it is closed. -/
def pathSteps (first : Point α) (rest : List (Point α)) (closed : Bool) : List (PathStep α) :=
  first.moveStep :: rest.map Point.lineStep ++ if closed then [.close] else []

end Rirekisho
