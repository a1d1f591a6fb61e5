import Mathlib.Algebra.Ring.Rat
import Rirekisho.Proofs.Drawing.Document
import Rirekisho.Proofs.Drawing.Invariant
import Rirekisho.Proofs.Drawing.Sequence
import Rirekisho.Proofs.Font
import Rirekisho.Proofs.Storage.Disk

namespace Rirekisho

variable {α σ β γ : Type}

section
variable {disk : Disk} {known : List String} {name : String} {file : Path} {failure : Failure}

namespace Document

/-- Why a face cannot be registered: there is no file, or what there is holds no font, or the system does not
tell, because the name is too long or for want of the right to look. -/
inductive Unregistered (disk : Disk) (name : String) (file : Path) : Failure → Prop
  | missing : disk.holds file = .ok false → Unregistered disk name file (Fault.missingFont name file).toFailure
  | unloadable : disk.holds file = .ok true → disk.read file ≠ .ok .font →
      Unregistered disk name file (Fault.unloadableFont name file "no font").toFailure
  | refused {reason : SystemFault} : disk.holds file = .error reason → reason = .nameTooLong ∨ reason = .denied →
      Unregistered disk name file (.system reason file)

theorem holdsFont_iff : holdsFont disk file = true ↔ disk.read file = .ok .font := by
  unfold holdsFont
  split
  next read => exact iff_of_true rfl read
  next other => exact iff_of_false Bool.false_ne_true other

theorem Unregistered.unread (unregistered : Unregistered disk name file failure) : disk.read file ≠ .ok .font := by
  intro read
  have there := Disk.holds_of_read read
  cases unregistered with
  | missing gone => cases there.symm.trans gone
  | unloadable _ unread => exact unread read
  | refused untold _ => cases there.symm.trans untold

/-- A face that is not known yet is registered when its file holds a font. -/
theorem registerFace_judged (disk : Disk) {known : List String} {name : String} (file : Path)
    (fresh : name ∉ known) :
    Ends (Unregistered disk name file) (fun after => after = known ++ [name] ∧ disk.read file = .ok .font)
      (registerFace disk known name file) := by
  unfold registerFace
  rw [if_neg fresh]
  cases there : disk.holds file with
  | error reason => exact .refused there (Disk.holds_eq_error there)
  | ok found =>
    cases found with
    | false => exact .missing there
    | true =>
      by_cases font : holdsFont disk file = true
      · simp only [font, if_true]
        exact ⟨rfl, holdsFont_iff.mp font⟩
      · simp only [font]
        exact .unloadable there (mt holdsFont_iff.mpr font)

/-- The files of all faces that are not known yet hold fonts. -/
def Loadable (disk : Disk) (known : List String) (faces : List (String × Path)) : Prop :=
  ∀ face ∈ faces, face.1 ∉ known → disk.read face.2 = .ok .font

/-- The failure is that of the first face that is not known yet and whose file holds no font. -/
def Stopped (disk : Disk) (known : List String) (faces : List (String × Path)) (failure : Failure) : Prop :=
  ∃ before name file rest, faces = before ++ (name, file) :: rest ∧ Loadable disk known before ∧
    name ∉ known ∧ Unregistered disk name file failure

section
variable {face : String × Path} {faces : List (String × Path)}

theorem Loadable.cons (first : face.1 ∉ known → disk.read face.2 = .ok .font)
    (others : Loadable disk known faces) : Loadable disk known (face :: faces) :=
  List.forall_mem_cons.mpr ⟨first, others⟩

theorem Stopped.cons (first : face.1 ∉ known → disk.read face.2 = .ok .font)
    (later : Stopped disk known faces failure) : Stopped disk known (face :: faces) failure := by
  obtain ⟨before, name, file, rest, split, fine, fresh, why⟩ := later
  exact ⟨face :: before, name, file, rest, by rw [split]; rfl, fine.cons first, fresh, why⟩

/-- To faces with other names it makes no difference that a name is known. -/
theorem Loadable.forget (loadable : Loadable disk (known ++ [name]) faces) (other : name ∉ faces.map (·.1)) :
    Loadable disk known faces := by
  intro face member fresh
  refine loadable face member fun now => ?_
  rcases List.mem_append.mp now with old | same
  · exact fresh old
  · exact other (List.mem_singleton.mp same ▸ List.mem_map.mpr ⟨face, member, rfl⟩)

theorem Stopped.forget (stopped : Stopped disk (known ++ [name]) faces failure)
    (other : name ∉ faces.map (·.1)) : Stopped disk known faces failure := by
  obtain ⟨before, culprit, file, rest, rfl, fine, fresh, why⟩ := stopped
  rw [List.map_append, List.mem_append, not_or] at other
  exact ⟨before, culprit, file, rest, rfl, fine.forget other.1,
    fun old => fresh (List.mem_append_left _ old), why⟩

theorem Stopped.not_loadable (stopped : Stopped disk known faces failure) : ¬ Loadable disk known faces := by
  intro loadable
  obtain ⟨before, name, file, rest, rfl, -, fresh, why⟩ := stopped
  exact why.unread (loadable (name, file) (List.mem_append_right _ (List.mem_cons_self ..)) fresh)

/-- Faces are registered one after the other, up to the first one that cannot be. -/
theorem registerAll_judged (disk : Disk) (known : List String) (once : (faces.map (·.1)).Nodup) :
    Ends (Stopped disk known faces) (fun _ => Loadable disk known faces) (registerAll disk known faces) := by
  induction faces generalizing known with
  | nil => exact nofun
  | cons face rest ih =>
    obtain ⟨name, file⟩ := face
    obtain ⟨other, once⟩ := List.nodup_cons.mp once
    by_cases old : name ∈ known
    · have passed (fresh : name ∉ known) : disk.read file = .ok .font := absurd old fresh
      simp only [registerAll, registerFace, if_pos old]
      have judged := ih known once
      cases run : registerAll disk known rest with
      | ok after => rw [run] at judged; exact judged.cons passed
      | error failure => rw [run] at judged; exact judged.cons passed
    · have first := registerFace_judged disk file old
      cases done : registerFace disk known name file with
      | error failure =>
        rw [done] at first
        simp only [registerAll, done]
        exact ⟨[], name, file, rest, rfl, nofun, old, first⟩
      | ok after =>
        rw [done] at first
        obtain ⟨rfl, font⟩ := first
        simp only [registerAll, done]
        have judged := ih (known ++ [name]) once
        cases run : registerAll disk (known ++ [name]) rest with
        | ok after => rw [run] at judged; exact (judged.forget other).cons fun _ => font
        | error failure => rw [run] at judged; exact (judged.forget other).cons fun _ => font

end

end Document

end

namespace Document

/-- The document has the faces, and no other has been set on its canvas. -/
structure Faced (faces : List String) (d : Document α) : Prop where
  same : d.faces = faces
  set {face : String} {size : α} : .font face size ∈ d.calls → face ∈ faces

/-- The computation leaves a document with the faces, on which no other is set. -/
def KeepsFaced (faces : List String) (act : Act (Document α) β) : Prop :=
  act.Keeps (Faced faces) (fun _ => True) fun _ => True

namespace KeepsFaced

variable {faces : List String}

theorem parts : Compositional (α := α) (KeepsFaced faces) where
  pure _ := .pure trivial
  throw _ := .throw trivial
  bind first rest := Act.Keeps.bind first fun x _ => rest x
  get _ rest := fun d faced => rest d d faced

theorem draw {call : CanvasCall α} (known : ∀ face size, call = .font face size → face ∈ faces) :
    KeepsFaced faces (draw call) := by
  refine .of_outcome ?_
  rintro d ⟨same, set⟩
  refine ⟨same, fun {face size} member => ?_⟩
  rcases List.mem_cons.mp member with here | before
  · exact known face size here.symm
  · exact set before

theorem newPage : KeepsFaced faces (newPage : Act (Document α) Nat) := by
  refine .of_outcome ?_
  rintro d ⟨same, set⟩
  rw [newPage_outcome]
  refine ⟨same, fun {face size} member => ?_⟩
  simp only [after] at member
  split at member
  next => exact set member
  next => exact set ((List.mem_cons.mp member).resolve_left (by rintro ⟨⟩))

variable [Scalar α]

theorem sink {fonts : FontRegistry} (known : ∀ face ∈ fonts.names, face ∈ faces) :
    (sink : Sink α _).Keeps (Faced faces) (fun _ => True) (fun _ => True) fonts where
  drawText _ member _ _ _ := by
    refine parts.drawText (draw ?_) (draw (by rintro _ _ ⟨⟩)) _
    rintro _ _ ⟨⟩
    exact known _ member
  drawPolyline _ _ closed options := by
    have styled : KeepsFaced faces (Document.draw (α := α) options.style.canvas) :=
      draw (by cases options.style <;> rintro _ _ ⟨⟩)
    exact parts.drawPolyline (draw (by rintro _ _ ⟨⟩)) styled (fun _ => draw (by rintro _ _ ⟨⟩)) _ _ closed
  drawImage _ _ origin natural scaleX scaleY :=
    parts.drawImage (fun _ _ _ _ => draw (by rintro _ _ ⟨⟩)) _ origin natural scaleX scaleY
  stringWidth _ text size := parts.stringWidth text _ size
  imageSize path := parts.imageSize path
  report report := .of_outcome fun _ faced => ⟨faced.same, faced.set⟩
  unplaced _ _ := trivial

end KeepsFaced

end Document

/-- A computation beside a list of faces, to which further ones are added. -/
def Act.noting (faces : List String) (act : Act σ β) : Act (σ × List String) β :=
  ExceptT.mk fun (s, noted) =>
    let (result, t) := act.outcome s
    (result, (t, faces ++ noted))

/-- The sink with a list of the faces that it is asked for, in drawings and in questions, the last one
first. -/
def Sink.noting (sink : Sink α σ) : Sink α (σ × List String) where
  newPage := sink.newPage.noting []
  drawText page text origin face size := (sink.drawText page text origin face size).noting [face]
  drawPolyline page points closed options := (sink.drawPolyline page points closed options).noting []
  drawImage page path origin natural scaleX scaleY :=
    (sink.drawImage page path origin natural scaleX scaleY).noting []
  stringWidth text face size := (sink.stringWidth text face size).noting [face]
  imageSize path := (sink.imageSize path).noting []
  save := sink.save.noting []
  report report := (sink.report report).noting []

/-- A drawing beside itself with the faces noted, all of which are among the names. -/
def Pairing.noted (names : List String) : Pairing α σ (σ × List String) where
  states s t := t.1 = s ∧ ∀ face ∈ t.2, face ∈ names
  failures := Eq
  pages := Eq
  coordinates := Eq

section
variable {names faces : List String}

theorem Act.noting_alike (member : ∀ face ∈ faces, face ∈ names) (act : Act σ β) :
    (Pairing.noted (α := α) names).Alike Eq act (act.noting faces) := by
  rintro _ ⟨s, noted⟩ ⟨rfl, known⟩
  have both : ∀ face ∈ faces ++ noted, face ∈ names := List.forall_mem_append.mpr ⟨member, known⟩
  change Pairing.Agree _ _ (act.outcome s) ((act.outcome s).1, ((act.outcome s).2, faces ++ noted))
  cases act.outcome s with
  | mk result t =>
    cases result with
    | ok x => exact .ok rfl ⟨rfl, both⟩
    | error failure => exact .error rfl ⟨rfl, both⟩

theorem Sink.noting_sinks (fonts : FontRegistry) (sink : Sink α σ) :
    (Pairing.noted fonts.names).Sinks fonts sink sink.noting where
  drawText := by
    rintro p _ o o' face rfl place member text size
    cases Pairing.places_eq rfl place
    exact Act.noting_alike (List.forall_mem_singleton.mpr member) _
  drawPolyline := by
    rintro p _ points points' rfl _ along closed options
    cases Pairing.points_eq rfl along
    exact Act.noting_alike (List.forall_mem_nil _) _
  drawImage := by
    rintro p _ o o' rfl place path natural scaleX scaleY
    cases Pairing.places_eq rfl place
    exact Act.noting_alike (List.forall_mem_nil _) _
  stringWidth member text size := Act.noting_alike (List.forall_mem_singleton.mpr member) _
  imageSize path := Act.noting_alike (List.forall_mem_nil _) _
  report report := Act.noting_alike (List.forall_mem_nil _) _
  unplaced _ _ := rfl

end

variable [Scalar α]

/-- A rendering asks its sink for registered faces only, whatever the sink. -/
theorem render_noting (sink : Sink α σ) (job : Job α) (commands : List (Command α)) (s : σ) :
    let noted := (render sink.noting job commands).outcome (s, [])
    (render sink job commands).outcome s = (noted.1, noted.2.1) ∧
      ∀ face ∈ noted.2.2, face ∈ job.fonts.names := by
  intro noted
  have alike := Pairing.render_alike (Sink.noting_sinks job.fonts sink) (.same rfl job)
    (fun _ _ _ _ same => same ▸ rfl) (Act.noting_alike (List.forall_mem_nil _) sink.newPage) commands
    fun command _ => .refl job.record command.directive
  have agree : (Pairing.noted (α := α) job.fonts.names).Agree Eq _ noted :=
    alike s (s, []) ⟨rfl, List.forall_mem_nil _⟩
  clear_value noted
  generalize (render sink job commands).outcome s = drawn at agree ⊢
  cases agree with
  | ok same kept => exact ⟨by rw [same, kept.1], kept.2⟩
  | error same kept => exact ⟨by rw [same, kept.1], kept.2⟩

namespace Document

omit [Scalar α] in
/-- What a registration comes to: all faces are known after it, or it is that of the first one that cannot be
registered which is told. -/
theorem register_judged {fonts : FontRegistry} (once : fonts.names.Nodup) (d : Document α) :
    match (register fonts).outcome d with
    | (.ok _, document) => Loadable d.disk d.faces fonts.faces ∧
        (∀ face ∈ fonts.names, face ∈ document.faces) ∧ document.calls = d.calls
    | (.error failure, document) => Stopped d.disk d.faces fonts.faces failure ∧ document = d := by
  have judged := registerAll_judged d.disk d.faces once
  rw [register_outcome]
  cases run : registerAll d.disk d.faces fonts.faces with
  | error failure =>
    rw [run] at judged
    exact ⟨judged, rfl⟩
  | ok after =>
    rw [run] at judged
    exact ⟨judged, (registerAll_mem run).2, rfl⟩

/-- Drawings on a document that knows all faces of the job set no others. -/
theorem render_faced {job : Job α} {faces : List String} {d : Document α} (faced : d.Faced faces)
    (known : ∀ face ∈ job.fonts.names, face ∈ faces) (commands : List (Command α)) :
    ((render sink job commands).outcome d).2.Faced faces := by
  exact (render_keeps (KeepsFaced.sink known) (fun _ _ _ => id) KeepsFaced.newPage commands).after faced

/-- The registration of the faces of a registry, and the drawings on a document after it. -/
theorem register_faces (faces : List (String × Path)) (file : Path) (width height : α) (title : String)
    (resolution : α) (typecase : Typecase α) (disk : Disk) :
    let fonts := FontRegistry.ofList faces
    let known := standardFaces ++ typecase.known
    let blank : Document α := .blank file width height title resolution typecase disk
    let made := (register fonts).outcome blank
    (made.1 = .ok () ↔ Loadable disk known fonts.faces) ∧
      (∀ failure, made.1 = .error failure → Stopped disk known fonts.faces failure) ∧
      (made.1 = .ok () → ∀ (job : Job α) (commands : List (Command α)), job.fonts = fonts →
        let noted := (render sink.noting job commands).outcome (made.2, [])
        let drawn := (render sink job commands).outcome made.2
        drawn = (noted.1, noted.2.1) ∧ drawn.2.faces = made.2.faces ∧
          (∀ face ∈ noted.2.2, face ∈ made.2.faces) ∧
          ∀ face size, .font face size ∈ drawn.2.calls → face ∈ made.2.faces) := by
  intro fonts known blank made
  have judged := register_judged (FontRegistry.nodup_ofList faces) blank
  change match made with | (.ok _, document) => _ | (.error failure, document) => _ at judged
  clear_value made
  obtain ⟨result, document⟩ := made
  cases result with
  | error failure =>
    refine ⟨⟨nofun, fun loadable => (judged.1.not_loadable loadable).elim⟩, ?_, nofun⟩
    rintro _ ⟨⟩
    exact judged.1
  | ok done =>
    obtain ⟨loadable, registered, unset⟩ := judged
    refine ⟨⟨fun _ => loadable, fun _ => rfl⟩, fun failure stopped => (nomatch stopped), ?_⟩
    intro _ job commands same noted drawn
    have faced : document.Faced document.faces := ⟨rfl, fun {face size} member => by
      rw [unset] at member
      simp [blank, Document.blank] at member⟩
    have held : ∀ face ∈ job.fonts.names, face ∈ document.faces := same ▸ registered
    obtain ⟨alike, among⟩ := render_noting sink job commands document
    have after := render_faced faced held commands
    exact ⟨alike, after.same, fun face member => held face (among face member), fun face size => after.set⟩

/-- A face that is known already and one that is registered from its file, with a text set in each. -/
theorem register_faces_gothic :
    let faces : List (String × Path) := [("mincho", ⟨.here, ["mincho.ttf"]⟩), ("gothic", ⟨.here, ["gothic.ttf"]⟩)]
    let disk : Disk := ⟨[], [(["gothic.ttf"], .file .font)], []⟩
    let fonts := FontRegistry.ofList faces
    let blank : Document Rat := .blank ⟨.here, ["cv.pdf"]⟩ 210 297 "CV" 300 (.courier ["mincho"]) disk
    let document := ((register fonts).outcome blank).2
    let commands : List (Command Rat) := [⟨some 1, .string ⟨20, 270⟩ "A" {}⟩,
      ⟨some 2, .textBox ⟨20, 260⟩ ⟨40, 10⟩ "B" { givenFace := some "gothic" }⟩]
    Loadable disk blank.faces fonts.faces ∧ ∀ face ∈
      ((render sink.noting { Job.bare with fonts := fonts } commands).outcome (document, [])).2.2,
        face ∈ document.faces := by
  intro faces disk fonts blank document commands
  have read : disk.read ⟨.here, ["gothic.ttf"]⟩ = .ok .font := holdsFont_iff.mp (by decide +kernel)
  have listed : fonts.faces = faces := by decide +kernel
  have loadable : Loadable disk blank.faces fonts.faces := by
    have known : "mincho" ∈ blank.faces := by decide
    rw [listed]
    exact .cons (fun fresh => absurd known fresh) (.cons (fun _ => read) (List.forall_mem_nil _))
  obtain ⟨registered, -, drawings⟩ := register_faces faces ⟨.here, ["cv.pdf"]⟩ (210 : Rat) 297 "CV" 300
    (.courier ["mincho"]) disk
  exact ⟨loadable, (drawings (registered.mpr loadable) { Job.bare with fonts := fonts } commands rfl).2.2.1⟩

omit [Scalar α] in
/-- A face whose file the system does not tell of: the failure is the system's own. -/
theorem register_refused {name : String} {file : Path} {reason : SystemFault} {d : Document α}
    (fresh : name ∉ d.faces) (refused : d.disk.holds file = .error reason) :
    (register ⟨[(name, file)]⟩).outcome d = (.error (.system reason file), d) := by
  rw [register_outcome]
  simp only [registerAll, registerFace, if_neg fresh, refused]

/-- A face whose file has a name that is too long for the system is not told. -/
theorem register_nameTooLong :
    let file : Path := ⟨.here, [String.ofList (List.replicate 300 'a')]⟩
    let fonts := FontRegistry.ofList [("mincho", file)]
    let blank : Document Rat := .blank ⟨.here, ["cv.pdf"]⟩ 210 297 "CV" 300 (.courier []) (.empty [])
    ¬ Loadable (.empty []) blank.faces fonts.faces ∧
      ∀ fault, ((register fonts).outcome blank).1 ≠ .error (.fault fault) := by
  intro file fonts blank
  have plain : '\x00' ∉ (String.ofList (List.replicate 300 'a')).toList := by
    rw [String.toList_ofList]
    exact mt List.eq_of_mem_replicate (by decide)
  have refused : blank.disk.holds file = .error .nameTooLong :=
    Disk.holds_nameTooLong _ (List.not_mem_nil) plain (by decide +kernel)
  have fresh : "mincho" ∉ blank.faces := by decide
  have stopped : Stopped (.empty []) blank.faces fonts.faces _ :=
    ⟨[], "mincho", file, [], rfl, nofun, fresh, .refused refused (Or.inl rfl)⟩
  refine ⟨stopped.not_loadable, fun fault same => ?_⟩
  rw [show fonts = ⟨[("mincho", file)]⟩ from rfl, register_refused fresh refused] at same
  cases same

end Document

end Rirekisho
