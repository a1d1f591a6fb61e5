import Mathlib.Algebra.Order.Field.Basic
import Mathlib.Algebra.Order.Field.Rat
import Rirekisho.Proofs.Drawing.Invariant
import Rirekisho.Proofs.Drawing.Paging
import Rirekisho.Proofs.Drawing.Sequence
import Rirekisho.Proofs.Storage.Disk

namespace Rirekisho

variable {α β : Type}

namespace Document

/-- The document has been drawn from the given one, and its last page has the number. -/
def DrawnFrom (begun : Document α) (page : Nat) (d : Document α) : Prop :=
  ∃ calls reports, d = { begun with pages := page, calls := calls, reports := reports }

section
variable {begun d e : Document α} {page last : Nat}

theorem StaysOnPage.keeps {act : Act (Document α) β} (stays : StaysOnPage act) :
    act.Keeps (begun.DrawnFrom page) (fun _ => True) fun _ => True := by
  refine .of_outcome fun d drawn => ?_
  obtain ⟨calls, reports, rfl⟩ := drawn
  obtain ⟨made, others, after, -⟩ := stays { begun with pages := page, calls := calls, reports := reports }
  exact ⟨made ++ calls, others, after⟩

variable [Scalar α] {job : Job α} {commands : List (Command α)}

theorem sink_keeps (begun : Document α) (page : Nat) (fonts : FontRegistry) :
    Sink.Keeps (begun.DrawnFrom page) (fun _ => True) (· = page) fonts sink where
  drawText _ _ text origin size := (StaysOnPage.drawText _ text origin _ size).keeps
  drawPolyline _ _ closed options := (StaysOnPage.drawPolyline _ _ closed options).keeps
  drawImage _ path origin natural scaleX scaleY := (StaysOnPage.drawImage _ path origin natural scaleX scaleY).keeps
  stringWidth _ text size := (StaysOnPage.parts.stringWidth text _ size).keeps
  imageSize path := (StaysOnPage.parts.imageSize path).keeps
  report report := StaysOnPage.keeps fun d => ⟨[], report :: d.reports, rfl, rfl⟩
  unplaced _ _ := trivial

omit [Scalar α] in
theorem newPage_drawnFrom (drawn : begun.DrawnFrom page d) (run : newPage.outcome d = (.ok last, e)) :
    begun.DrawnFrom last e := by
  obtain ⟨calls, reports, rfl⟩ := drawn
  cases (newPage_outcome _).symm.trans run
  exact ⟨_, reports, rfl⟩

theorem drawPages_drawnFrom (run : (drawPages sink job commands).outcome d = (.ok last, e)) :
    d.DrawnFrom last e := by
  obtain ⟨page, opened, opening, drawing⟩ := Act.outcome_bind_eq_ok run
  have begun : d.DrawnFrom page opened := newPage_drawnFrom ⟨d.calls, d.reports, rfl⟩ opening
  exact drawAll_holds (fun page => sink_keeps d page job.fonts) newPage_drawnFrom begun drawing

end

variable [Scalar α]

/-- The natural size of an image with the given pixels. -/
def sizeOfPixels (resolution : α) (width height : Nat) : Size α :=
  ⟨millimetresOfPixels resolution width, millimetresOfPixels resolution height⟩

theorem naturalSize_of_read {disk : Disk} {file : Path} {width height : Nat}
    (image : disk.read file = .ok (.image width height)) (resolution : α) :
    naturalSize disk resolution file =
      if Scalar.isZero resolution then .error .divisionByZero else .ok (sizeOfPixels resolution width height) := by
  rw [naturalSize, Disk.holds_of_read image]
  simp only [pixels?, image, sizeOfPixels]

end Document

/-- Numbers that are not rounded. All of them can be written, a length divided by one that is more than nothing makes
that length when it is multiplied by it again, and pixels are as little as nothing only if the resolution is. -/
structure Scalar.Exact (α : Type) [Scalar α] : Prop where
  written (x : α) : isUndefined x = false ∧ isInfinite x = false
  scaled {x y : α} : isNonpositive y = false → y * (x / y) = x
  sign {pixels : Nat} (resolution : α) : 0 < pixels →
    isNonpositive (Document.millimetresOfPixels resolution pixels) = isNonpositive resolution

theorem Scalar.exact_rat : Scalar.Exact Rat where
  written _ := ⟨rfl, rfl⟩
  scaled := by
    intro x y positive
    have apart : y ≠ 0 := ne_of_gt (not_le.mp (of_decide_eq_false positive))
    rw [mul_comm, div_mul_cancel₀ x apart]
  sign := by
    intro pixels resolution some
    have inch : (0 : Rat) < 25.4 := by decide +kernel
    have some : (0 : Rat) < pixels := Nat.cast_pos.mpr some
    have same : 0 < (pixels : Rat) / resolution * 25.4 ↔ 0 < resolution :=
      (mul_pos_iff_of_pos_right inch).trans (div_pos_iff_of_pos_left some)
    exact decide_eq_decide.mpr (not_lt.symm.trans ((not_congr same).trans not_lt))

theorem Scalar.Exact.imageFlaw? [Scalar α] (exact : Exact α) (place : Point α) (size : Size α) :
    Document.imageFlaw? place size = none := by
  refine List.findSome?_eq_none_iff.mpr fun x _ => ?_
  obtain ⟨defined, finite⟩ := exact.written x
  simp only [defined, finite, Bool.false_eq_true, if_false]

/-- The lengths cannot be those of an image. -/
def Size.useless [Scalar α] (natural : Size α) : Bool :=
  Scalar.isNonpositive natural.width || Scalar.isNonpositive natural.height

/-- The size of an image that is scaled from its natural size to the size that it should have. -/
def Size.scaledTo [Scalar α] (natural size : Size α) : Size α :=
  ⟨natural.width * (size.width / natural.width), natural.height * (size.height / natural.height)⟩

/-- The fault of an image with a natural size that it cannot be scaled from. -/
def Size.fault [Scalar α] (natural : Size α) : Fault :=
  .imageSize (Scalar.text natural.width) (Scalar.text natural.height)

theorem Scalar.Exact.useless_sizeOfPixels [Scalar α] (exact : Exact α) {width height : Nat} (wide : 0 < width)
    (high : 0 < height) (resolution : α) :
    (Document.sizeOfPixels resolution width height).useless = isNonpositive resolution := by
  rw [Size.useless, Document.sizeOfPixels, exact.sign resolution wide, exact.sign resolution high, Bool.or_self]

/-- Without rounding an image that can be scaled has the size that it should have. -/
theorem Scalar.Exact.scaledTo_eq [Scalar α] (exact : Exact α) {natural : Size α} (useful : natural.useless = false)
    (size : Size α) : natural.scaledTo size = size := by
  obtain ⟨wide, high⟩ := Bool.or_eq_false_iff.mp useful
  rw [Size.scaledTo, exact.scaled wide, exact.scaled high]

theorem photoScale_eq [Scalar α] (size natural : Size α) : photoScale size natural =
    if natural.useless then .error natural.fault
    else .ok (size.width / natural.width, size.height / natural.height) := rfl

namespace Document

variable [Scalar α] {job : Job α} {d e : Document α} {width height : Nat}

/-- What comes of drawing a photo: the first division fails, the guard of the second one finds a fault, or the
one call for the image is made. After it the canvas may be unable to write the frame of the image. -/
theorem drawPhoto_outcome {page : Nat} (here : d.pages = page)
    (image : d.disk.read job.photo = .ok (.image width height)) (position : Point α) (size : Size α) :
    let natural := sizeOfPixels d.resolution width height
    let scaled := natural.scaledTo size
    let place := job.toPage position
    (drawPhoto sink job page position size).outcome d =
      if Scalar.isZero d.resolution then (.error .divisionByZero, d)
      else if natural.useless then (.error natural.fault.toFailure, d)
      else ((imageFlaw? place scaled).elim (.ok ()) .error, d.after [imageCall job.photo place scaled]) := by
  intro natural scaled place
  have told : (sink.imageSize job.photo).outcome d =
      (if Scalar.isZero d.resolution then .error .divisionByZero else .ok natural, d) := by
    show (imageSize job.photo).outcome d = _
    rw [imageSize_outcome, naturalSize_of_read image]
  rw [drawPhoto]
  by_cases zero : Scalar.isZero d.resolution
  · rw [if_pos zero] at told ⊢
    exact Act.outcome_bind_error told _
  · rw [if_neg zero] at told ⊢
    rw [Act.outcome_bind_ok told, photoScale_eq]
    cases natural.useless with
    | true => rfl
    | false => exact drawImage_outcome here image place natural _ _

theorem draw_photo {page : Nat} (here : d.pages = page) (image : d.disk.read job.photo = .ok (.image width height))
    (line : Option Int) (position : Point α) (size : Size α) :
    let natural := sizeOfPixels d.resolution width height
    let scaled := natural.scaledTo size
    let place := job.toPage position
    ((⟨line, .photo position size⟩ : Command α).draw sink job page).outcome d =
      if Scalar.isZero d.resolution then (.error .divisionByZero, d)
      else if natural.useless then (.error (.fault ⟨natural.fault, line, some "photo", none⟩), d)
      else ((imageFlaw? place scaled).elim (.ok page) .error, d.after [imageCall job.photo place scaled]) := by
  intro natural scaled place
  have drawn : ((Directive.photo position size).draw sink job page).outcome d = _ :=
    Act.outcome_bind_pure (drawPhoto sink job page position size) (fun _ => page) d
  rw [drawPhoto_outcome here image] at drawn
  rw [Command.draw, Act.outcome_located, drawn]
  by_cases zero : Scalar.isZero d.resolution
  · rw [if_pos zero, if_pos zero]
    rfl
  · rw [if_neg zero, if_neg zero]
    cases natural.useless with
    | true => rfl
    | false =>
      cases flawed : imageFlaw? place scaled with
      | none => rfl
      | some failure =>
        have told := (ofCanvas_of_unwritten? flawed).locate_eq line (some "photo")
        exact congrArg (fun failure => (Except.error failure, _)) told

variable {before : List (Command α)} {last : Nat}

/-- Rendering comes to a photo command after others, and the file of the photo holds an image. With a resolution of
zero the first division fails, and that is told as it is. With any other one the image is drawn at its place, by one
call, and drawing goes on after it; or its natural size is no good, which is told with the line and the keyword of the
command; or the canvas cannot write the numbers of the image. If nothing is rounded, the last does not happen, the
natural size is no good only where the resolution is negative, and the image gets the size that the command tells. -/
theorem render_photo (begun : (drawPages sink job before).outcome d = (.ok last, e))
    (image : d.disk.read job.photo = .ok (.image width height)) (wide : 0 < width) (high : 0 < height)
    (line : Option Int) (position : Point α) (size : Size α) (after : List (Command α)) :
    let natural := sizeOfPixels d.resolution width height
    let scaled := natural.scaledTo size
    let place := job.toPage position
    let script := before ++ ⟨line, .photo position size⟩ :: after
    let shown := e.after [imageCall job.photo place scaled]
    let located := (render sink job script).outcome d = (.error (.fault ⟨natural.fault, line, some "photo", none⟩), e)
    let drawn := (drawPages sink job script).outcome d = (drawAll sink job last after).outcome shown
    (Scalar.isZero d.resolution = true → (render sink job script).outcome d = (.error .divisionByZero, e)) ∧
    (Scalar.isZero d.resolution = false →
      (natural.useless = true ∧ located ∨ natural.useless = false ∧ imageFlaw? place scaled = none ∧ drawn ∨
        natural.useless = false ∧ ∃ failure, imageFlaw? place scaled = some failure ∧ failure.OfCanvas ∧
          (render sink job script).outcome d = (.error failure, shown)) ∧
      (Scalar.Exact α → (Scalar.isNonpositive d.resolution = true → located) ∧
        (Scalar.isNonpositive d.resolution = false → drawn ∧ scaled = size))) := by
  intro natural scaled place script shown located drawn
  have outcome : ((⟨line, .photo position size⟩ : Command α).draw sink job last).outcome e =
      if Scalar.isZero d.resolution then (.error .divisionByZero, e)
      else if natural.useless then (.error (.fault ⟨natural.fault, line, some "photo", none⟩), e)
      else ((imageFlaw? place scaled).elim (.ok last) .error, shown) := by
    obtain ⟨calls, reports, rfl⟩ := drawPages_drawnFrom begun
    exact draw_photo (d := { d with pages := last, calls := calls, reports := reports }) rfl image line position size
  -- each end of the command is carried over to the whole script: a failure stops it, the call is drawn on from
  have first (zero : Scalar.isZero d.resolution = true) :
      (render sink job script).outcome d = (.error .divisionByZero, e) := by
    rw [if_pos zero] at outcome
    exact render_stopped begun outcome after
  refine ⟨first, fun apart => ?_⟩
  rw [if_neg (by rw [apart]; exact Bool.false_ne_true)] at outcome
  have second (useless : natural.useless = true) : located := by
    rw [if_pos useless] at outcome
    exact render_stopped begun outcome after
  have third (useful : natural.useless = false) :
      imageFlaw? place scaled = none ∧ drawn ∨ ∃ failure, imageFlaw? place scaled = some failure ∧ failure.OfCanvas ∧
        (render sink job script).outcome d = (.error failure, shown) := by
    rw [if_neg (by rw [useful]; exact Bool.false_ne_true)] at outcome
    cases flawed : imageFlaw? place scaled with
    | none =>
      rw [flawed] at outcome
      refine Or.inl ⟨rfl, ?_⟩
      show (drawPages sink job script).outcome d = _
      rw [drawPages_append, Act.outcome_bind_ok begun]
      exact Act.outcome_bind_ok outcome _
    | some failure =>
      rw [flawed] at outcome
      exact Or.inr ⟨failure, rfl, ofCanvas_of_unwritten? flawed, render_stopped begun outcome after⟩
  constructor
  · cases useless : natural.useless with
    | true => exact Or.inl ⟨rfl, second useless⟩
    | false =>
      rcases third useless with ⟨written, drawing⟩ | stopped
      · exact Or.inr (Or.inl ⟨rfl, written, drawing⟩)
      · exact Or.inr (Or.inr ⟨rfl, stopped⟩)
  · intro exact
    have sign := exact.useless_sizeOfPixels wide high d.resolution
    refine ⟨fun nonpositive => second (sign.trans nonpositive), fun positive => ?_⟩
    have useful := sign.trans positive
    rcases third useful with ⟨-, drawing⟩ | ⟨failure, flawed, -⟩
    · exact ⟨drawing, exact.scaledTo_eq useful size⟩
    · cases (exact.imageFlaw? place scaled).symm.trans flawed

/-- A job with a photo and no faces. -/
def photoJob : Job Rat := ⟨⟨fun _ => "", ⟨.here, ["p.png"]⟩, fun _ => []⟩, ⟨[]⟩, 5, ⟨.here, ["p.png"]⟩⟩

/-- A document with the given resolution beside a photo of 50 by 100 pixels, which is the only file. -/
def photoDocument (resolution : Rat) : Document Rat :=
  .blank ⟨.here, ["cv.pdf"]⟩ 210 297 "CV" resolution (.courier [])
    ⟨[], [(["p.png"], .file (.image 50 100))], []⟩

theorem read_photoJob (resolution : Rat) :
    (photoDocument resolution).disk.read photoJob.photo = .ok (.image 50 100) := rfl

/-- A photo with a hundred pixels to an inch, on the second page: it is drawn within the margin, in the size that the
command tells. -/
theorem render_photo_square :
    let d := photoDocument 100
    let e : Document Rat := { d.after [.nextPage] with pages := 2 }
    let turn : Command Rat := ⟨some 1, .newPage⟩
    (drawPages sink photoJob [turn]).outcome d = (.ok 2, e) ∧ d.disk.read photoJob.photo = .ok (.image 50 100) ∧
      (drawPages sink photoJob [turn, ⟨some 2, .photo ⟨1, 2⟩ ⟨30, 30⟩⟩]).outcome d =
        (.ok 2, e.after [imageCall photoJob.photo ⟨6, 7⟩ ⟨30, 30⟩]) := by
  intro d e turn
  have begun : (drawPages sink photoJob [turn]).outcome d = (.ok 2, e) := rfl
  have image : d.disk.read photoJob.photo = .ok (.image 50 100) := read_photoJob 100
  obtain ⟨-, divided⟩ := render_photo begun image (by decide) (by decide) (some 2) ⟨1, 2⟩ ⟨30, 30⟩ []
  obtain ⟨drawn, scaled⟩ := ((divided (by decide +kernel)).2 Scalar.exact_rat).2 (by decide +kernel)
  have place : photoJob.toPage ⟨1, 2⟩ = ⟨6, 7⟩ := by decide +kernel
  rw [scaled, place] at drawn
  exact ⟨begun, image, drawn⟩

/-- The settings take every number for the resolution. -/
theorem photoOf_resolution (x : Float) : Schema.photoOf [(.text "dpi", .float x)] = .valid { resolution := x } := by
  have path : Value.lookup? (.text "path") [(.text "dpi", .float x)] = none := rfl
  have dpi : Value.lookup? (.text "dpi") [(.text "dpi", .float x)] = some (.float x) := rfl
  rw [Schema.photoOf, Entries.optional, path, Entries.optional, dpi]
  rfl

/-- So they take zero, and then pixels are divided by zero: what rendering fails with is no fault and has no place. -/
theorem render_photo_unscaled :
    let d := photoDocument 0
    Schema.photoOf [(.text "dpi", .float 0.0)] = .valid { resolution := 0.0 } ∧
      d.disk.read photoJob.photo = .ok (.image 50 100) ∧
      ((render sink photoJob [⟨some 1, .photo ⟨1, 2⟩ ⟨30, 30⟩⟩]).outcome d).1 = .error .divisionByZero ∧
      ∀ fault, Failure.divisionByZero ≠ .fault fault := by
  intro d
  have apart (fault : Located Fault) : Failure.divisionByZero ≠ .fault fault := nofun
  have failed : ((render sink photoJob [⟨some 1, .photo ⟨1, 2⟩ ⟨30, 30⟩⟩]).outcome d).1 = .error .divisionByZero := by
    decide +kernel
  exact ⟨photoOf_resolution 0.0, read_photoJob 0, failed, apart⟩

end Document

end Rirekisho
