import Rirekisho.Drawing.Canvas
import Rirekisho.Drawing.Sink
import Rirekisho.Settings.Basic

namespace Rirekisho

/-- The faces that every document knows without files. -/
def standardFaces : List String := ["Helvetica", "Courier", "Symbol", "ZapfDingbats"]

/-- Faces that a document finds when text is set in them. -/
def findableFaces : List String :=
  ["Courier-Bold", "Courier-Oblique", "Courier-BoldOblique", "Helvetica-Bold",
    "Helvetica-Oblique", "Helvetica-BoldOblique", "Times-Roman", "Times-Bold", "Times-Italic",
    "Times-BoldItalic"]

/-- What a document finds when it is begun: the faces that are known already, and how wide a text is in
points, in a face and at a size. -/
structure Typecase (α : Type) where
  known : List String
  width (text face : String) (size : α) : α

/-- A document while it is drawn. -/
structure Document (α : Type) where
  file : Path
  /-- The pixels of an image that go into an inch. -/
  resolution : α
  /-- The faces that are registered. -/
  faces : List String
  /-- Those of the faces that come from files. -/
  loaded : List String := []
  /-- The width of a text in points. -/
  textWidth (text face : String) (size : α) : α
  /-- The size of the pages on the canvas. -/
  size : Size α
  pages : Nat
  /-- The calls on the canvas, the last one first. -/
  calls : List (CanvasCall α)
  /-- The reports, the last one first. -/
  reports : List Report
  disk : Disk
  /-- The document has been saved, or its saving has failed. -/
  saved : Bool := false

namespace Document

variable {α : Type} [Scalar α]

/-- A call made on the canvas. -/
def draw (call : CanvasCall α) : Act (Document α) Unit :=
  modify fun d => { d with calls := call :: d.calls }

/-- What keeps numbers from being written in a document: the first that is infinite or none at all. -/
def unwritten? (numbers : List α) : Option Failure :=
  numbers.findSome? fun x =>
    if Scalar.isUndefined x then some .undefinedNumber
    else if Scalar.isInfinite x then some .overflow
    else none

/-- Numbers written in the document. -/
def write (numbers : List α) : Act (Document α) Unit :=
  match unwritten? numbers with
  | some failure => throw failure
  | none => pure ()

/-- The file holds a font. -/
def holdsFont (disk : Disk) (file : Path) : Bool :=
  match disk.read file with
  | .ok .font => true
  | _ => false

/-- A face registered, if it is not yet. -/
def registerFace (disk : Disk) (known : List String) (name : String) (file : Path) :
    Except Failure (List String) :=
  if name ∈ known then .ok known
  else
    match disk.holds file with
    | .error reason => .error (.system reason file)
    | .ok false => .error (Fault.missingFont name file).toFailure
    | .ok true =>
      if holdsFont disk file then .ok (known ++ [name])
      else .error (Fault.unloadableFont name file "no font").toFailure

/-- Faces registered one after the other. -/
def registerAll (disk : Disk) :
    List String → List (String × Path) → Except Failure (List String)
  | known, [] => .ok known
  | known, (name, file) :: rest =>
    match registerFace disk known name file with
    | .error failure => .error failure
    | .ok known => registerAll disk known rest

/-- The document knows the face, or finds it. -/
def finds (document : Document α) (face : String) : Bool :=
  document.faces.contains face || findableFaces.contains face

/-- The page is the one that can be drawn on. -/
def guardPage (page : Nat) : Act (Document α) Unit := do
  if (← get).pages ≠ page then throw (Fault.closedPage page).toFailure

/-- The number of the next page, which is begun. The first one is there from the beginning. -/
def newPage : Act (Document α) Nat := do
  let pages := (← get).pages
  if pages > 0 then draw .nextPage
  modify fun d => { d with pages := pages + 1 }
  return pages + 1

/-- The numbers of a type: its size, and how far lines are apart. -/
def typeNumbers (size : α) : List α := [size, size * 1.2]

/-- A line of text. The face has to be one that the document finds. The type is written at once, or
with its first character if its face comes from a file. -/
def drawText (page : Nat) (text : String) (origin : Point α) (face : String) (size : α) :
    Act (Document α) Unit := do
  guardPage page
  draw (.font face size)
  let d ← get
  if !d.finds face then throw (.unknownFace face)
  if !d.loaded.contains face then write (typeNumbers size)
  draw (.text (onCanvas origin.x) (onCanvas origin.y) text)
  write [onCanvas origin.x, onCanvas origin.y]
  if d.loaded.contains face && text != "" then write (typeNumbers size)

/-- Lines from point to point. There has to be a first one. -/
def drawPolyline (page : Nat) (points : List (Point α)) (closed : Bool)
    (options : LineOptions α) : Act (Document α) Unit := do
  guardPage page
  draw (.lineWidth options.width)
  write [options.width]
  draw options.style.canvas
  match points with
  | [] => throw .emptyPath
  | first :: rest =>
    write (points.flatMap fun p => [onCanvas p.x, onCanvas p.y])
    draw (.path (pathSteps first rest closed))

/-- The pixels of the image in a file. -/
def pixels? (disk : Disk) (file : Path) : Option (Nat × Nat) :=
  match disk.read file with
  | .ok (.image width height) => some (width, height)
  | _ => none

/-- The numbers of a frame for an image, from its lower left corner. A negative width is taken to the
left and a negative height downwards. The height is written after a multiple of it by zero. -/
def frameNumbers (x y width height : α) : List α :=
  let zero := Scalar.ofNat 0
  let flipped (length : α) := Scalar.isNonpositive length && !Scalar.isZero length
  let (x, width) := if flipped width then (x - (zero - width), zero - width) else (x, width)
  let (y, height) := if flipped height then (y - (zero - height), zero - height) else (y, height)
  [x, y, width, zero * height, height]

/-- An image, its natural size scaled. -/
def drawImage (page : Nat) (file : Path) (origin : Point α) (natural : Size α)
    (scaleX scaleY : α) : Act (Document α) Unit := do
  guardPage page
  let (x, y) := (onCanvas origin.x, onCanvas origin.y)
  let (width, height) := (onCanvas (natural.width * scaleX), onCanvas (natural.height * scaleY))
  draw (.image file x y width height)
  match (← get).disk.read file with
  | .ok (.image ..) => write (frameNumbers x y width height)
  | .ok _ => throw .noImage
  | .error _ => throw .unopenedImage

/-- The width of a text. -/
def stringWidth (text face : String) (size : α) : Act (Document α) α := do
  let d ← get
  if d.finds face then return millimetresOfPoints (d.textWidth text face size)
  else throw (.unknownFace face)

/-- Pixels as millimetres. -/
def millimetresOfPixels (resolution : α) (pixels : Nat) : α :=
  Scalar.ofNat pixels / resolution * 25.4

/-- The natural size of the image in a file. -/
def imageSize (file : Path) : Act (Document α) (Size α) := do
  let d ← get
  if !(← Act.ofResult ((d.disk.holds file).mapError (.system · file))) then
    throw (Fault.missingPhoto file).toFailure
  match pixels? d.disk file with
  | none => throw (Fault.unreadablePhoto file "no image").toFailure
  | some (width, height) =>
    if Scalar.isZero d.resolution then throw .divisionByZero
    return ⟨millimetresOfPixels d.resolution width, millimetresOfPixels d.resolution height⟩

/-- The document written to its file, once. One without pages gets an empty one. The file stays empty
if the size of the pages cannot be written. -/
def save : Act (Document α) Path := do
  if (← get).pages = 0 then
    let _ ← newPage
  draw .save
  let d ← get
  if d.saved then throw .savedBefore
  let flaw := unwritten? [d.size.width, d.size.height]
  let content : Content := if flaw.isSome then .bytes ⟨#[]⟩ else .document
  set { d with saved := true }
  match d.disk.write d.file content, flaw with
  | .error .nullInName, _ => throw (.system .nullInName d.file)
  | .error reason, _ => throw (Fault.unwritable d.file reason).toFailure
  | .ok disk, some failure =>
    modify fun d => { d with disk := disk }
    throw failure
  | .ok disk, none =>
    modify fun d => { d with disk := disk, reports := .saved d.file d.pages :: d.reports }
    return d.file

/-- Documents as sinks. -/
def sink : Sink α (Document α) where
  newPage := newPage
  drawText := drawText
  drawPolyline := drawPolyline
  drawImage := drawImage
  stringWidth := stringWidth
  imageSize := imageSize
  save := save
  report report := modify fun d => { d with reports := report :: d.reports }

/-- A document before its faces are registered. -/
def blank (file : Path) (width height : α) (title : String) (resolution : α)
    (typecase : Typecase α) (disk : Disk) : Document α where
  file := file
  resolution := resolution
  faces := standardFaces ++ typecase.known
  textWidth := typecase.width
  size := ⟨onCanvas width, onCanvas height⟩
  pages := 0
  calls := [.title title, .open file (onCanvas width) (onCanvas height)]
  reports := []
  disk := disk

/-- The faces of a registry registered. -/
def register (fonts : FontRegistry) : Act (Document α) Unit := do
  let d ← get
  let faces ← Act.ofResult (registerAll d.disk d.faces fonts.faces)
  set { d with faces := faces, loaded := faces.drop d.faces.length }

end Document

/-- The document of settings before its faces are registered. -/
def Settings.blankDocument (settings : Settings) (file : Path) (typecase : Typecase Float)
    (disk : Disk) : Document Float :=
  .blank file settings.page.width settings.page.height settings.page.title
    settings.photo.resolution typecase disk

end Rirekisho
