import Rirekisho.Outline
import Rirekisho.Schema.Simple

namespace Rirekisho.Schema

/-- A point. A coordinate that is left out is zero. -/
def pointOf (entries : Entries) : Checked (Point Float) :=
  Point.mk <$> entries.optional "x" 0.0 number <*> entries.optional "y" 0.0 number

/-- A size. -/
def sizeOf (entries : Entries) : Checked (Size Float) :=
  Size.mk <$> entries.required "width" number <*> entries.required "height" number

/-- Options for type. -/
def fontOptionsOf (entries : Entries) : Checked (FontOptions Float) :=
  FontOptions.mk <$> entries.optional "font_size" none (nullable number) <*>
    entries.optional "font_face" none (nullable text)

/-- Options for lines. -/
def lineOptionsOf (entries : Entries) : Checked (LineOptions Float) :=
  LineOptions.mk <$> entries.optional "line_width" none (nullable number) <*>
    entries.optional "line_style" none (nullable lineStyle)

/-- A value that is a point. -/
def point : Value → Checked (Point Float) := entriesOf "Point" pointOf

/-- A value that is a size. -/
def size : Value → Checked (Size Float) := entriesOf "Size" sizeOf

/-- The options for type among the entries of a command. -/
def fontIn (entries : Entries) : Checked (FontOptions Float) :=
  entries.optional "font_options" {} (entriesOf "FontOptions" fontOptionsOf)

/-- The options for lines among the entries of a command. -/
def lineIn (entries : Entries) : Checked (LineOptions Float) :=
  entries.optional "line_options" {} (entriesOf "LineOptions" lineOptionsOf)

/-- The columns of a table. -/
def columnsOf (entries : Entries) : Checked (TableColumns Float) :=
  TableColumns.mk <$> entries.required "y" number <*> entries.required "year_x" number <*>
    entries.required "month_x" number <*> entries.required "value_x" number <*>
    entries.required "padding" number

/-- The keyword of a command, which need not be given. -/
def keywordIn (keyword : Keyword) (entries : Entries) : Checked Unit :=
  entries.optional "kind" () (literal keyword.name)

/-- What a command with the given keyword asks for. -/
def directiveOf (keyword : Keyword) (entries : Entries) : Checked (Directive Float) :=
  let point name := entries.required name point
  let size := entries.required "size" size
  let number name := entries.required name number
  let count name := entries.required name count
  let text name := entries.required name text
  let columns := columnsOf entries
  let here := keywordIn keyword entries
  let font := fontIn entries
  let line := lineIn entries
  match keyword with
  | .string => (fun _ => .string) <$> here <*> point "position" <*> text "value" <*> font
  | .line =>
    (fun _ => .line) <$> here <*> point "start_position" <*> point "end_position" <*> line
  | .box => (fun _ => .box) <$> here <*> point "position" <*> size <*> line
  | .photo => (fun _ => .photo) <$> here <*> point "position" <*> size
  | .newPage => (fun _ => .newPage) <$> here
  | .textBox =>
    (fun _ => .textBox) <$> here <*> point "position" <*> size <*> text "value" <*> font
  | .multiLines =>
    (fun _ => .multiLines) <$> here <*> point "start_position" <*> point "direction" <*>
      count "stroke_number" <*> point "position_offset"
  | .polyline =>
    (fun _ => .polyline) <$> here <*> count "stroke_number" <*>
      entries.required "positions" (someList Schema.point) <*> line <*>
      entries.optional "close" none (nullable truth)
  | .yearMonthBox =>
    (fun _ => .yearMonthBox) <$> here <*> text "title" <*> number "height" <*> count "num" <*>
      text "value"
  | .miscBox =>
    (fun _ => .miscBox) <$> here <*> text "title" <*> number "y" <*> number "height" <*>
      text "value"
  | .history =>
    (fun columns _ => .history columns) <$> columns <*> here <*> text "value" <*> font
  | .educationExperience =>
    (fun columns _ => .educationExperience columns) <$> columns <*> here <*> number "caption_x" <*>
      number "ijo_x" <*> font

/-- The number of the line that a command stands on, which need not be given. -/
def lineNumberIn (entries : Entries) : Checked (Option Int) :=
  entries.optional "line_no" none (nullable integer)

/-- A command with the given keyword. -/
def commandOf (keyword : Keyword) (entries : Entries) : Checked (Command Float) :=
  Command.mk <$> lineNumberIn entries <*> directiveOf keyword entries

/-- An entry of a list. -/
def entryOf (entries : Entries) : Checked Entry :=
  Entry.mk <$> entries.optional "year" none (nullable looseText) <*>
    entries.optional "month" none (nullable month) <*> entries.required "value" looseText

/-- A field of a record. -/
inductive RecordField where
  | text (field : TextField)
  | photo
  | entries (field : ListField)

/-- The fields of a record in the order in which they are checked. -/
def RecordField.all : List RecordField :=
  (TextField.all.take 7).map .text ++ .photo :: ((TextField.all.drop 7).take 14).map .text ++
    ListField.all.map .entries ++ (TextField.all.drop 21).map .text

/-- A record. -/
def recordOf (entries : Entries) : Checked Record :=
  let text (field : TextField) := entries.required field.label looseText
  let photo := entries.required "photo" path
  let list (field : ListField) :=
    entries.required field.label (list (entriesOf "Entry" entryOf))
  let part : RecordField → Checked Unit
    | .text field => (text field).map fun _ => ()
    | .photo => photo.map fun _ => ()
    | .entries field => (list field).map fun _ => ()
  ((Checked.all (RecordField.all.map part)).also fun _ => photo).map fun photo =>
    ⟨fun field => (text field).value?.getD "", photo, fun field => (list field).value?.getD []⟩

/-- A kind of thing that has a description. -/
inductive ModelKind where
  | point
  | size
  | fontOptions
  | lineOptions
  | command (keyword : Keyword)
  | columns
  | entry
  | record
  deriving Repr, DecidableEq

/-- A thing that has been built. Columns by themselves may have the number of a line. -/
inductive Model where
  | point (point : Point Float)
  | size (size : Size Float)
  | fontOptions (font : FontOptions Float)
  | lineOptions (options : LineOptions Float)
  | command (command : Command Float)
  | columns (line : Option Int) (columns : TableColumns Float)
  | entry (entry : Entry)
  | record (record : Record)

namespace Model

/-- The thing of a kind that the entries describe. -/
def ofEntries (kind : ModelKind) (entries : Entries) : Checked Model :=
  match kind with
  | .point => (pointOf entries).map .point
  | .size => (sizeOf entries).map .size
  | .fontOptions => (fontOptionsOf entries).map .fontOptions
  | .lineOptions => (lineOptionsOf entries).map .lineOptions
  | .command word => (commandOf word entries).map .command
  | .columns => .columns <$> lineNumberIn entries <*> columnsOf entries
  | .entry => (entryOf entries).map .entry
  | .record => (recordOf entries).map .record

/-- The kind of a thing. -/
def kind : Model → ModelKind
  | .point _ => .point
  | .size _ => .size
  | .fontOptions _ => .fontOptions
  | .lineOptions _ => .lineOptions
  | .command c => .command c.directive.keyword
  | .columns .. => .columns
  | .entry _ => .entry
  | .record _ => .record

/-- The outline of a thing. -/
def outline : Model → Outline
  | .point p => p.outline
  | .size s => s.outline
  | .fontOptions font => font.outline
  | .lineOptions line => line.outline
  | .command c => .parts c.outline
  | .columns line table => .parts (("line_no", .ofOption .integer line) :: table.outline)
  | .entry e => e.outline
  | .record r => .parts r.outline

/-- A part of a thing set to a new value, which is refused: names that begin with an underscore are
no parts, and setting them has no effect. -/
def assign (model : Model) (name : String) (_value : Value) : Checked Model :=
  if name.toList.head? = some '_' then .valid model
  else .invalid [⟨[name], "Instance is frozen"⟩]

end Model

end Rirekisho.Schema
