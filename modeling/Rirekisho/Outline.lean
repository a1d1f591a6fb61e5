import Rirekisho.Command
import Rirekisho.Record
import Rirekisho.Text.Quoted
import Rirekisho.Value.Basic

namespace Rirekisho

/-- The outline of a value. -/
inductive Outline where
  | absent
  | truth (b : Bool)
  | integer (n : Int)
  | number (x : Float)
  | text (s : String)
  | style (style : LineStyle)
  /-- A fixed row of values. -/
  | row (items : List Outline)
  | list (items : List Outline)
  | parts (parts : List (String × Outline))

namespace Outline

/-- The parts of a list, with commas between them. -/
def joined (texts : List String) : String := ", ".intercalate texts

mutual

/-- The outline on one line. A row of one keeps a comma. -/
def line : Outline → String
  | .absent => "None"
  | .truth b => if b then "True" else "False"
  | .integer n => Numeral.integerText n
  | .number x => Numeral.floatText x
  | .text s => Text.quoted s
  | .style .solid => "<LineStyle.SOLID: 'solid'>"
  | .style .dashed => "<LineStyle.DASHED: 'dashed'>"
  | .row [item] => "(" ++ item.line ++ ",)"
  | .row items => "(" ++ joined (lines items) ++ ")"
  | .list items => "[" ++ joined (lines items) ++ "]"
  | .parts named => "\x7b" ++ joined (partLines named) ++ "\x7d"

/-- The outlines of a list on a line each. -/
def lines : List Outline → List String
  | [] => []
  | item :: rest => item.line :: lines rest

/-- The names and outlines of parts. -/
def partLines : List (String × Outline) → List String
  | [] => []
  | (name, part) :: rest => (Text.quoted name ++ ": " ++ part.line) :: partLines rest

end

mutual

/-- The outline as a value of a document. -/
def value : Outline → Value
  | .absent => .null
  | .truth b => .bool b
  | .integer n => .int n
  | .number x => .float x
  | .text s => .text s
  | .style s => .text s.name
  | .row items => .list (values items)
  | .list items => .list (values items)
  | .parts named => .map (entries named)

/-- The outlines of a list as values. -/
def values : List Outline → List Value
  | [] => []
  | item :: rest => item.value :: values rest

/-- Parts as the entries of a mapping. -/
def entries : List (String × Outline) → List (Value × Value)
  | [] => []
  | (name, part) :: rest => (.text name, part.value) :: entries rest

end

/-- A part that may be absent. -/
def ofOption {β : Type} (outline : β → Outline) : Option β → Outline
  | none => .absent
  | some x => outline x

end Outline

/-- The outline of a point. -/
def Point.outline (p : Point Float) : Outline := .parts [("x", .number p.x), ("y", .number p.y)]

/-- The outline of a size. -/
def Size.outline (s : Size Float) : Outline :=
  .parts [("width", .number s.width), ("height", .number s.height)]

/-- The outline of options for type. -/
def FontOptions.outline (font : FontOptions Float) : Outline :=
  .parts [("font_size", .ofOption .number font.givenSize),
    ("font_face", .ofOption .text font.givenFace)]

/-- The outline of options for lines. -/
def LineOptions.outline (options : LineOptions Float) : Outline :=
  .parts [("line_width", .ofOption .number options.givenWidth),
    ("line_style", .ofOption .style options.givenStyle)]

/-- The outline of columns. -/
def TableColumns.outline (columns : TableColumns Float) : List (String × Outline) :=
  [("y", .number columns.y), ("year_x", .number columns.yearX), ("month_x", .number columns.monthX),
    ("value_x", .number columns.valueX), ("padding", .number columns.padding)]

/-- The outline of what a command asks for. -/
def Directive.outline : Directive Float → List (String × Outline)
  | .string position value font =>
    [("position", position.outline), ("value", .text value), ("font_options", font.outline)]
  | .line start delta options =>
    [("start_position", start.outline), ("end_position", delta.outline),
      ("line_options", options.outline)]
  | .box position size options =>
    [("position", position.outline), ("size", size.outline), ("line_options", options.outline)]
  | .photo position size => [("position", position.outline), ("size", size.outline)]
  | .newPage => []
  | .textBox position size value font =>
    [("position", position.outline), ("size", size.outline), ("value", .text value),
      ("font_options", font.outline)]
  | .multiLines start direction count offset =>
    [("start_position", start.outline), ("direction", direction.outline),
      ("stroke_number", .integer count), ("position_offset", offset.outline)]
  | .polyline count positions options close =>
    [("stroke_number", .integer count), ("positions", .row (positions.map Point.outline)),
      ("line_options", options.outline), ("close", .ofOption .truth close)]
  | .yearMonthBox title height count value =>
    [("title", .text title), ("height", .number height), ("num", .integer count),
      ("value", .text value)]
  | .miscBox title y height value =>
    [("title", .text title), ("y", .number y), ("height", .number height), ("value", .text value)]
  | .history columns value font =>
    columns.outline ++ [("value", .text value), ("font_options", font.outline)]
  | .educationExperience columns captionX endX font =>
    columns.outline ++ [("caption_x", .number captionX), ("ijo_x", .number endX),
      ("font_options", font.outline)]

/-- The outline of a command: the number of its line, its keyword, and what it asks for. -/
def Command.outline (command : Command Float) : List (String × Outline) :=
  ("line_no", .ofOption .integer command.line) ::
    ("kind", .text command.directive.keyword.name) :: command.directive.outline

/-- The outline of an entry. -/
def Entry.outline (entry : Entry) : Outline :=
  .parts [("year", .ofOption .text entry.year),
    ("month", .ofOption (fun m => .integer (m : Nat)) entry.month), ("value", .text entry.value)]

/-- The outline of a record. -/
def Record.outline (record : Record) : List (String × Outline) :=
  TextField.all.map (fun field => (field.label, .text (record.text field))) ++
    ("photo", .text record.photo.text) ::
      ListField.all.map fun field =>
        (field.label, .list ((record.entries field).map Entry.outline))

end Rirekisho
