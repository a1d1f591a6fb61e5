import Rirekisho.Drawing.Shape
import Rirekisho.Drawing.Sink
import Rirekisho.Font
import Rirekisho.Variable

namespace Rirekisho

variable {α σ : Type} [Scalar α]

/-- What commands are drawn with: the record that variables look into, the faces that may be used,
the margin of the page and the photo. -/
structure Job (α : Type) where
  record : Record
  fonts : FontRegistry
  margin : α
  photo : Path

namespace Job

/-- A place of the script as a place of the page. -/
def toPage (job : Job α) (point : Point α) : Point α := point + ⟨job.margin, job.margin⟩

end Job

/-- The lines of a text. -/
def textLines (value : String) : List String := (Text.split '\n' value.toList).map String.ofList

/-- The height of the base line of a line with the given number, below a first height. -/
def baseline (top lineHeight : α) (number : Nat) : α := top - lineHeight * Scalar.ofNat (number + 1)

/-- Text from a point of the script, one line below the other. -/
def placeText (sink : Sink α σ) (job : Job α) (page : Nat) (position : Point α) (value : String)
    (font : FontOptions α) : Act σ Unit := do
  let face ← Act.ofFault (job.fonts.resolve font.face)
  let origin := job.toPage position
  (textLines value).zipIdx.forM fun (text, number) =>
    sink.drawText page text ⟨origin.x, baseline origin.y font.lineHeight number⟩ face font.size

/-- Text in the middle of a frame. -/
def drawTextBox (sink : Sink α σ) (job : Job α) (page : Nat) (position : Point α) (size : Size α)
    (value : String) (font : FontOptions α) : Act σ Unit := do
  let value ← Act.ofFault (job.record.resolveText value)
  let face ← Act.ofFault (job.fonts.resolve font.face)
  let topLeft := job.toPage position
  sink.drawPolyline page (frameCorners topLeft size) true {}
  let center : Point α := ⟨topLeft.x + size.width / 2.0, topLeft.y - size.height / 2.0⟩
  let texts := textLines value
  let top := center.y + font.lineHeight * Scalar.ofNat texts.length / 2.0
  texts.zipIdx.forM fun (text, number) => do
    let width ← sink.stringWidth text face font.size
    sink.drawText page text ⟨center.x - width / 2.0, baseline top font.lineHeight number⟩ face
      font.size

/-- A line from a place of the script. -/
def drawLine (sink : Sink α σ) (job : Job α) (page : Nat) (start delta : Point α)
    (options : LineOptions α) : Act σ Unit :=
  let start := job.toPage start
  sink.drawPolyline page [start, start + delta] false options

/-- So many equal lines, each one offset from the last. -/
def drawMultiLines (sink : Sink α σ) (job : Job α) (page : Nat) (start direction offset : Point α) :
    Nat → Act σ Unit
  | 0 => pure ()
  | count + 1 => do
    drawLine sink job page start direction {}
    drawMultiLines sink job page (start + offset) direction offset count

/-- The photo, scaled to a size. -/
def drawPhoto (sink : Sink α σ) (job : Job α) (page : Nat) (position : Point α) (size : Size α) :
    Act σ Unit := do
  let natural ← sink.imageSize job.photo
  let (scaleX, scaleY) ← Act.ofFault (photoScale size natural)
  sink.drawImage page job.photo (job.toPage position) natural scaleX scaleY

/-- The text of a month, or nothing. -/
def monthText (month : Option Nat) : String :=
  match month with
  | some m => Numeral.integerText m
  | none => ""

/-- Where the text of a month begins: one of two digits a third of a line height before its column,
so that the last digits stand below each other. -/
def monthX (column lineHeight : α) (text : String) : α :=
  column - (if text.length > 1 then lineHeight / 3.0 else 0.0)

/-- Entries in three columns, one row below the other from a height on. The result is the height of
the row after the last. -/
def drawEntries (sink : Sink α σ) (job : Job α) (page : Nat) (columns : TableColumns α)
    (font : FontOptions α) (y : α) : List Entry → Act σ α
  | [] => pure y
  | entry :: rest => do
    placeText sink job page ⟨columns.yearX, y⟩ (entry.year.getD "") font
    let month := monthText entry.month
    placeText sink job page ⟨monthX columns.monthX font.lineHeight month, y⟩ month font
    placeText sink job page ⟨columns.valueX, y⟩ entry.value font
    drawEntries sink job page columns font (y - columns.padding) rest

/-- A caption at a height and the entries below it. -/
def drawCaptioned (sink : Sink α σ) (job : Job α) (page : Nat) (columns : TableColumns α)
    (font : FontOptions α) (captionX y : α) (caption : String) (entries : List Entry) :
    Act σ α := do
  placeText sink job page ⟨captionX, y⟩ caption font
  drawEntries sink job page columns font (y - columns.padding) entries

/-- The captions of the tables and the mark at their end. -/
def educationCaption : String := "学歴"

/-- The caption of the experience. -/
def experienceCaption : String := "職歴"

/-- The mark after the last entry. -/
def endMark : String := "以上"

/-- A directive drawn on a page. The result is the page for the next one. -/
def Directive.draw (sink : Sink α σ) (job : Job α) (page : Nat) : Directive α → Act σ Nat
  | .string position value font => do
    let value ← Act.ofFault (job.record.resolveText value)
    placeText sink job page position value font
    return page
  | .line start delta options => do
    drawLine sink job page start delta options
    return page
  | .box position size options => do
    sink.drawPolyline page ((boxCorners position size).map job.toPage) true options
    return page
  | .photo position size => do
    drawPhoto sink job page position size
    return page
  | .newPage => sink.newPage
  | .textBox position size value font => do
    drawTextBox sink job page position size value font
    return page
  | .multiLines start direction count offset => do
    drawMultiLines sink job page start direction offset count
    return page
  | .polyline _ positions options close => do
    match vertices positions ⟨job.margin, job.margin⟩ with
    | .error e => throw (.fault e)
    | .ok points =>
      sink.drawPolyline page points (isClosed close) options
      return page
  | .yearMonthBox title _ _ _ => do
    sink.report (.yearMonthBoxSkipped title)
    return page
  | .miscBox title _ _ _ => do
    sink.report (.miscBoxSkipped title)
    return page
  | .history columns value font => do
    let entries ← Act.ofFault (job.record.resolveList value)
    let _ ← drawEntries sink job page columns font (columns.y + columns.padding) entries
    return page
  | .educationExperience columns captionX endX font => do
    let y ← drawCaptioned sink job page columns font captionX columns.y educationCaption
      (job.record.entries .education)
    let y ← drawCaptioned sink job page columns font captionX y experienceCaption
      (job.record.entries .experience)
    placeText sink job page ⟨endX, y⟩ endMark font
    return page

/-- A command drawn on a page, its faults told with its line and keyword. -/
def Command.draw (sink : Sink α σ) (job : Job α) (page : Nat) (command : Command α) : Act σ Nat :=
  Act.located command.line (some command.directive.keyword.name)
    (command.directive.draw sink job page)

/-- Commands drawn from a page on. The result is the last page. -/
def drawAll (sink : Sink α σ) (job : Job α) (page : Nat) : List (Command α) → Act σ Nat
  | [] => pure page
  | command :: rest => do
    let page ← command.draw sink job page
    drawAll sink job page rest

/-- Commands drawn from a new page on. -/
def render (sink : Sink α σ) (job : Job α) (commands : List (Command α)) : Act σ Unit := do
  let page ← sink.newPage
  let _ ← drawAll sink job page commands
  sink.report (.rendered commands.length)

/-- Commands drawn up to something that is none. -/
def renderUntilStray (sink : Sink α σ) (job : Job α) (commands : List (Command α)) :
    Act σ Unit := do
  let page ← sink.newPage
  let _ ← drawAll sink job page commands
  throw .noCommand

end Rirekisho
