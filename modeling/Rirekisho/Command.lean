import Rirekisho.Options

namespace Rirekisho

/-- The words that a command can begin with. -/
inductive Keyword where
  | string
  | line
  | box
  | photo
  | newPage
  | textBox
  | multiLines
  | polyline
  | yearMonthBox
  | miscBox
  | history
  | educationExperience
  deriving Repr, DecidableEq

namespace Keyword

/-- Every keyword. -/
def all : List Keyword :=
  [.string, .line, .box, .photo, .newPage, .textBox, .multiLines, .polyline, .yearMonthBox,
    .miscBox, .history, .educationExperience]

/-- The keyword as it is written. -/
def name : Keyword → String
  | .string => "string"
  | .line => "line"
  | .box => "box"
  | .photo => "photo"
  | .newPage => "new_page"
  | .textBox => "textbox"
  | .multiLines => "multi_lines"
  | .polyline => "lines"
  | .yearMonthBox => "ymbox"
  | .miscBox => "miscbox"
  | .history => "history"
  | .educationExperience => "education_experience"

/-- The keyword that is written so. -/
def ofName? (word : String) : Option Keyword := all.find? (·.name == word)

end Keyword

/-- Where the columns of a table stand, and how far its rows are apart. -/
structure TableColumns (α : Type) where
  y : α
  yearX : α
  monthX : α
  valueX : α
  padding : α
  deriving Repr, BEq, DecidableEq

/-- What a command asks for. -/
inductive Directive (α : Type) where
  /-- Text from a point, one line below the other. -/
  | string (position : Point α) (value : String) (font : FontOptions α)
  | line (start delta : Point α) (options : LineOptions α)
  | box (position : Point α) (size : Size α) (options : LineOptions α)
  | photo (position : Point α) (size : Size α)
  | newPage
  /-- Text in the middle of a frame, known by its upper left corner. -/
  | textBox (position : Point α) (size : Size α) (value : String) (font : FontOptions α)
  /-- So many equal lines, each one offset from the last. -/
  | multiLines (start direction : Point α) (count : Nat) (offset : Point α)
  /-- A first point and the ways to the next ones. -/
  | polyline (count : Nat) (positions : List (Point α)) (options : LineOptions α)
      (close : Option Bool)
  /-- A box that is understood and not drawn. -/
  | yearMonthBox (title : String) (height : α) (count : Nat) (value : String)
  /-- A box that is understood and not drawn. -/
  | miscBox (title : String) (y height : α) (value : String)
  /-- The entries of a list in three columns. -/
  | history (columns : TableColumns α) (value : String) (font : FontOptions α)
  /-- The education and the experience, each under its caption, and the end mark. -/
  | educationExperience (columns : TableColumns α) (captionX endX : α) (font : FontOptions α)
  deriving Repr, BEq, DecidableEq

/-- The keyword of a directive. -/
def Directive.keyword {α : Type} : Directive α → Keyword
  | .string .. => .string
  | .line .. => .line
  | .box .. => .box
  | .photo .. => .photo
  | .newPage => .newPage
  | .textBox .. => .textBox
  | .multiLines .. => .multiLines
  | .polyline .. => .polyline
  | .yearMonthBox .. => .yearMonthBox
  | .miscBox .. => .miscBox
  | .history .. => .history
  | .educationExperience .. => .educationExperience

/-- A polyline is closed unless it is said to be open. -/
def isClosed (close : Option Bool) : Bool := close.getD true

/-- A directive with the number of the line that it stands on. -/
structure Command (α : Type) where
  line : Option Int
  directive : Directive α
  deriving Repr, BEq, DecidableEq

end Rirekisho
