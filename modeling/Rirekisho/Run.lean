import Rirekisho.DataFile
import Rirekisho.Drawing.Document
import Rirekisho.Drawing.Renderer
import Rirekisho.Script.Reader

namespace Rirekisho

/-- The files of a run. -/
structure Order where
  data : Path
  script : Path
  output : Path
  deriving Repr, DecidableEq

/-- A run while it goes on. -/
structure Run where
  disk : Disk
  /-- What documents find of faces. -/
  typecase : Typecase Float
  /-- The calls on the canvas, the last one first. -/
  calls : List (CanvasCall Float) := []
  /-- The reports, the last one first. -/
  reports : List Report := []

/-- What the drawing of a record depends on. -/
def Settings.job (settings : Settings) (fonts : FontRegistry) (record : Record) : Job Float :=
  ⟨record, fonts, settings.page.margin, settings.photo.path⟩

namespace Run

/-- A report taken down. -/
def report (report : Report) : Act Run Unit :=
  modify fun run => { run with reports := report :: run.reports }

/-- A stage of a run: that it begins is reported, and its failure too. -/
def during {β : Type} (stage : Stage) (act : Act Run β) : Act Run β := do
  report (.stageStarted stage)
  tryCatch act fun failure => do
    report (.stageFailed stage failure)
    throw failure

/-- The record of a data file. -/
def readData (file : Path) : Act Run Record := do
  let record ← Act.ofResult (DataFile.load (← get).disk file)
  report (.dataLoaded file)
  return record

/-- The commands of a script file. -/
def readScript (file : Path) : Act Run (List (Command Float)) := do
  let text ← Act.ofResult (Script.fileText (← get).disk file)
  report (.scriptRead file)
  match Script.read text with
  | .error fault => throw (.fault fault)
  | .ok commands =>
    report (.scriptParsed commands.length)
    return commands

/-- A computation on a document as a part of the run: its reports, its calls and what it writes are
the run's. -/
def onDocument (document : Document Float) (act : Act (Document Float) Unit) :
    Act Run (Document Float) := do
  let run ← get
  let (outcome, document) := act.outcome { document with reports := run.reports, disk := run.disk }
  set { run with disk := document.disk, calls := document.calls, reports := document.reports }
  Act.ofResult (outcome.map fun _ => document)

/-- A new document with the commands drawn on it. -/
def drawDocument (settings : Settings) (record : Record) (commands : List (Command Float))
    (file : Path) : Act Run (Document Float) := do
  let run ← get
  let fonts := settings.fonts.registry
  onDocument (settings.blankDocument file run.typecase run.disk) do
    Document.register fonts
    render Document.sink (settings.job fonts record) commands

/-- A document written to its file. -/
def saveDocument (document : Document Float) : Act Run Path := do
  let document ← onDocument document do
    let _ ← Document.save
  return document.file

/-- The whole run. The result is the file that has been written. -/
def execute (settings : Settings) (order : Order) : Act Run Path := do
  let record ← during .loadData (readData order.data)
  let commands ← during .parseStyle (readScript order.script)
  let document ← during .render (drawDocument settings record commands order.output)
  let file ← during .save (saveDocument document)
  report (.finished file)
  return file

end Run

end Rirekisho
