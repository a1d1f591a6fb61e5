import Rirekisho.Geometry

namespace Rirekisho

/-- How a line is drawn. -/
inductive LineStyle where
  | solid
  | dashed
  deriving Repr, DecidableEq

namespace LineStyle

/-- The word for a style. -/
def name : LineStyle → String
  | .solid => "solid"
  | .dashed => "dashed"

/-- The style with the given word. -/
def ofName? : String → Option LineStyle
  | "solid" => some .solid
  | "dashed" => some .dashed
  | _ => none

end LineStyle

/-- The type that a script asks for: its size in points and its face. -/
structure FontOptions (α : Type) where
  givenSize : Option α := none
  givenFace : Option String := none
  deriving Repr, BEq, DecidableEq

/-- The lines that a script asks for: their width in points and their style. -/
structure LineOptions (α : Type) where
  givenWidth : Option α := none
  givenStyle : Option LineStyle := none
  deriving Repr, BEq, DecidableEq

variable {α : Type} [Scalar α]

namespace FontOptions

/-- The size of the type: twelve points, if nothing is given. -/
def size (font : FontOptions α) : α := font.givenSize.getD 12.0

/-- The face of the type: Mincho, if nothing is given. -/
def face (font : FontOptions α) : String := font.givenFace.getD "mincho"

/-- The height of a line of text in millimetres. -/
def lineHeight (font : FontOptions α) : α := millimetresOfPoints font.size

end FontOptions

namespace LineOptions

/-- The width of the lines: half a point, if nothing is given. -/
def width (line : LineOptions α) : α := line.givenWidth.getD 0.5

/-- The style of the lines: solid, if nothing is given. -/
def style (line : LineOptions α) : LineStyle := line.givenStyle.getD .solid

end LineOptions

end Rirekisho
