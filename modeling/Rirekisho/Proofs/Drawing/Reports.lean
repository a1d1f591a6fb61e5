import Rirekisho.Proofs.Drawing.Document
import Rirekisho.Proofs.Drawing.Parallel

namespace Rirekisho

variable {α β γ : Type}

/-- The report tells that a stage of a run begins, or that it has failed. -/
def Report.isOfStage : Report → Bool
  | .stageStarted _ | .stageFailed .. => true
  | _ => false

/-- The canvas is saved by the call. -/
def CanvasCall.isSave : CanvasCall α → Bool
  | .save => true
  | _ => false

namespace Document

/-- The document has been drawn on a canvas that has not been saved, with the files as they are on the
disk. -/
structure Unsaved (disk : Disk) (d : Document α) : Prop where
  disk : d.disk = disk
  calls : d.calls.countP CanvasCall.isSave = 0

/-- An unsaved document and the same one with other reports, of which those of stages are given. -/
def retelling (disk : Disk) (stages : List Report) : Pairing α (Document α) (Document α) where
  states d e := d.Unsaved disk ∧
    ∃ reports, e = { d with reports := reports } ∧ reports.filter Report.isOfStage = stages
  failures := Eq
  pages := Eq
  coordinates := Eq

/-- The computation draws on unsaved documents in the same way, whatever they have reported. -/
def IgnoresReports (disk : Disk) (stages : List Report) (act : Act (Document α) β) : Prop :=
  (retelling disk stages).Alike Eq act act

namespace IgnoresReports

variable {disk : Disk} {stages : List Report}

theorem bind {act : Act (Document α) β} {next : β → Act (Document α) γ}
    (first : IgnoresReports disk stages act) (rest : ∀ x, IgnoresReports disk stages (next x)) :
    IgnoresReports disk stages (act >>= next) := by
  refine (first.follows.bind fun x y same => ?_).alike
  subst same
  exact (rest x).follows

/-- What is done with a document when its reports are not looked at. -/
theorem get {next : Document α → Act (Document α) β}
    (same : ∀ d reports, next { d with reports := reports } = next d)
    (rest : ∀ d, IgnoresReports disk stages (next d)) :
    IgnoresReports disk stages (MonadState.get >>= next) := by
  rintro d e together
  obtain ⟨unsaved, reports, rfl, told⟩ := together
  rw [Act.outcome_get_bind, Act.outcome_get_bind, same d reports]
  exact rest d d _ ⟨unsaved, reports, rfl, told⟩

theorem parts : Compositional (α := α) (IgnoresReports disk stages) where
  pure _ := (Pairing.Follows.pure rfl).alike
  throw _ := (Pairing.Follows.throw rfl).alike
  bind := bind
  get := get

theorem draw {call : CanvasCall α} (other : call.isSave = false) : IgnoresReports disk stages (draw call) := by
  rintro d _ ⟨unsaved, reports, rfl, told⟩
  have still : (call :: d.calls).countP CanvasCall.isSave = 0 := by
    rw [List.countP_cons_of_neg (by rw [other]; exact Bool.false_ne_true), unsaved.calls]
  exact .ok rfl ⟨⟨unsaved.disk, still⟩, reports, rfl, told⟩

theorem newPage : IgnoresReports disk stages (newPage : Act (Document α) Nat) := by
  rintro d _ ⟨unsaved, reports, rfl, told⟩
  rw [newPage_outcome, newPage_outcome]
  refine .ok rfl ⟨⟨unsaved.disk, ?_⟩, reports, rfl, told⟩
  dsimp only [after]
  split
  · exact unsaved.calls
  · exact unsaved.calls

theorem register (fonts : FontRegistry) :
    IgnoresReports disk stages (register fonts : Act (Document α) Unit) := by
  rintro d _ ⟨unsaved, reports, rfl, told⟩
  rw [register_outcome, register_outcome]
  dsimp only
  cases registerAll d.disk d.faces fonts.faces with
  | error failure => exact .error rfl ⟨unsaved, reports, rfl, told⟩
  | ok faces => exact .ok rfl ⟨⟨unsaved.disk, unsaved.calls⟩, reports, rfl, told⟩

variable [Scalar α]

theorem report {report : Report} (drawing : report.isDrawing) :
    IgnoresReports disk stages ((Document.sink : Sink α _).report report) := by
  rintro d _ ⟨unsaved, reports, rfl, told⟩
  refine .ok rfl ⟨⟨unsaved.disk, unsaved.calls⟩, report :: reports, rfl, ?_⟩
  rw [List.filter_cons_of_neg, told]
  cases report <;> first | exact Bool.false_ne_true | cases drawing

theorem sinks (job : Job α) : (retelling disk stages).SinkFollows (fun _ => False) (fun _ => True) job
    Document.sink Document.sink where
  drawText := by
    rintro p _ o o' face rfl place _ text size
    cases Pairing.places_eq rfl place
    exact (parts.drawText (.draw rfl) (.draw rfl) p).follows
  drawPolyline := by
    rintro p _ points points' rfl _ along closed options
    cases Pairing.points_eq rfl along
    have styled : IgnoresReports disk stages (Document.draw (α := α) options.style.canvas) :=
      .draw (by cases options.style <;> rfl)
    exact (parts.drawPolyline (.draw rfl) styled (fun _ => .draw rfl) p points closed).follows
  drawImage := by
    rintro p _ o o' natural rfl place _ scaleX scaleY
    cases Pairing.places_eq rfl place
    exact (parts.drawImage (fun _ _ _ _ => .draw rfl) p o natural scaleX scaleY).follows
  stringWidth _ text size := (parts.stringWidth text _ size).follows
  imageSize := (Pairing.Alike.mono (parts.imageSize job.photo) fun _ _ same => ⟨same, trivial⟩).follows
  report drawing := (IgnoresReports.report drawing).follows
  unplaced _ _ := rfl

theorem render (job : Job α) (commands : List (Command α)) :
    IgnoresReports disk stages (Rirekisho.render Document.sink job commands) :=
  (Pairing.render_follows (sinks job) (.same rfl job) (fun _ _ _ _ same => same ▸ rfl) (fun _ _ _ => id)
    newPage.follows commands fun command _ => .refl job.record command.directive).alike

end IgnoresReports

/-- The outcome on the document with other reports, told from the outcome on the document itself. -/
theorem IgnoresReports.outcome {disk : Disk} {stages reports : List Report} {act : Act (Document α) β}
    (ignores : IgnoresReports disk stages act) {d : Document α} (unsaved : d.Unsaved disk)
    (told : reports.filter Report.isOfStage = stages) :
    (act.outcome d).2.Unsaved disk ∧ ∃ more,
      act.outcome { d with reports := reports } =
        ((act.outcome d).1, { (act.outcome d).2 with reports := more }) ∧
      more.filter Report.isOfStage = stages := by
  have agree := ignores d { d with reports := reports } ⟨unsaved, reports, rfl, told⟩
  generalize act.outcome d = u at agree ⊢
  generalize act.outcome { d with reports := reports } = v at agree ⊢
  cases agree with
  | ok related kept =>
    obtain ⟨still, more, rfl, told⟩ := kept
    exact ⟨still, more, by rw [related], told⟩
  | error related kept =>
    obtain ⟨still, more, rfl, told⟩ := kept
    exact ⟨still, more, by rw [related], told⟩

variable [Scalar α]

/-- What comes of saving a document. -/
def saving (d : Document α) : Except Failure Path :=
  let flaw := unwritten? [d.size.width, d.size.height]
  if d.saved then .error .savedBefore
  else
    match d.disk.write d.file (if flaw.isSome then .bytes ⟨#[]⟩ else .document) with
    | .error .nullInName => .error (.system .nullInName d.file)
    | .error reason => .error (Fault.unwritable d.file reason).toFailure
    | .ok _ =>
      match flaw with
      | some failure => .error failure
      | none => .ok d.file

/-- The path of a document that is saved is that of its file. -/
theorem saving_map_file (d : Document α) : d.saving.map (fun _ => d.file) = d.saving := by
  unfold saving
  dsimp only
  split
  · rfl
  · generalize unwritten? [d.size.width, d.size.height] = flaw
    cases d.disk.write d.file (if flaw.isSome then .bytes ⟨#[]⟩ else .document) with
    | error reason => cases reason <;> rfl
    | ok disk => cases flaw <;> rfl

/-- A document is saved by one call on its canvas, whatever comes of it, and has a page then. -/
theorem save_outcome (d : Document α) : ∃ saved, save.outcome d = (d.saving, saved) ∧ saved.file = d.file ∧
    saved.calls = .save :: d.calls ∧ saved.pages = max d.pages 1 ∧
    saved.reports.filter Report.isOfStage = d.reports.filter Report.isOfStage := by
  unfold save saving
  rw [Act.outcome_get_bind]
  dsimp only
  rw [firstPage_outcome, outcome_draw_bind, Act.outcome_get_bind]
  dsimp only [after]
  cases before : d.saved with
  | true =>
    simp only [if_true]
    exact ⟨_, rfl, rfl, rfl, rfl, rfl⟩
  | false =>
    obtain ⟨flaw, written⟩ : ∃ flaw, unwritten? [d.size.width, d.size.height] = flaw := ⟨_, rfl⟩
    simp only [Bool.false_eq_true, if_false, written]
    rw [Act.outcome_set_bind]
    cases d.disk.write d.file (if flaw.isSome then .bytes ⟨#[]⟩ else .document) with
    | error reason => cases reason <;> exact ⟨_, rfl, rfl, rfl, rfl, rfl⟩
    | ok disk => cases flaw <;> exact ⟨_, rfl, rfl, rfl, rfl, rfl⟩

end Document

end Rirekisho
