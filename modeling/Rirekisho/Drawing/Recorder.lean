import Rirekisho.Drawing.Sink

namespace Rirekisho

/-- What a sink is asked for. -/
inductive Call (α : Type) where
  | newPage (page : Nat)
  | text (page : Nat) (text : String) (origin : Point α) (face : String) (size : α)
  | polyline (page : Nat) (points : List (Point α)) (closed : Bool) (options : LineOptions α)
  | image (page : Nat) (path : Path) (origin : Point α) (natural : Size α) (scaleX scaleY : α)
  | stringWidth (text face : String) (size : α)
  | imageSize (path : Path)
  | save
  deriving Repr, DecidableEq

/-- The calls and reports so far, the last one first, and the number of pages. -/
structure Recording (α : Type) where
  calls : List (Call α) := []
  reports : List Report := []
  pages : Nat := 0

variable {α : Type} [Scalar α]

/-- The recording with a further call. -/
def Recording.add (r : Recording α) (call : Call α) : Recording α :=
  { r with calls := call :: r.calls }

/-- What a sink that records answers to questions: the width of a text in a face and a size, and the
natural size of the image in a file. It may answer with a fault. -/
structure Answers (α : Type) where
  width (text face : String) (size : α) : Except (Located Fault) α
  natural (path : Path) : Except (Located Fault) (Size α)

/-- The sink that records and gives the answers. Questions are taken down before they are answered. -/
def Sink.recording (answers : Answers α) : Sink α (Recording α) where
  newPage := do
    modify fun r => { r with pages := r.pages + 1 }
    let page := (← get).pages
    modify (·.add (.newPage page))
    return page
  drawText page text origin face size := modify (·.add (.text page text origin face size))
  drawPolyline page points closed options :=
    modify (·.add (.polyline page points closed options))
  drawImage page path origin natural scaleX scaleY :=
    modify (·.add (.image page path origin natural scaleX scaleY))
  stringWidth text face size := do
    modify (·.add (.stringWidth text face size))
    Act.ofResult ((answers.width text face size).mapError .fault)
  imageSize path := do
    modify (·.add (.imageSize path))
    Act.ofResult ((answers.natural path).mapError .fault)
  save := do
    modify (·.add .save)
    return Path.ofText "memory.pdf"
  report report := modify fun r => { r with reports := report :: r.reports }

/-- Texts half as wide as high for each character, and one natural size for every image. -/
def Answers.usual (natural : Size α) : Answers α where
  width text _ size := .ok (Scalar.ofNat text.length * millimetresOfPoints size * 0.5)
  natural _ := .ok natural

/-- The sink that records with the usual answers. -/
def recorder (natural : Size α) : Sink α (Recording α) := .recording (.usual natural)

end Rirekisho
