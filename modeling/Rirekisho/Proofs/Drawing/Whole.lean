import Rirekisho.Proofs.Drawing.Recording

namespace Rirekisho

variable {α σ β γ δ : Type}

namespace Act

/-- The computation leaves what is seen of the state as it is. -/
def Quiet (view : σ → δ) (act : Act σ β) : Prop := ∀ s, view (act.outcome s).2 = view s

/-- Every failure of the computation has an excuse in the state that is left. -/
def Excused (excuse : Failure → σ → Prop) (act : Act σ β) : Prop :=
  ∀ s failure t, act.outcome s = (.error failure, t) → excuse failure t

/-- The computation, if it fails without an excuse, leaves what is seen of the state as it was. -/
def Whole (view : σ → δ) (excuse : Failure → σ → Prop) (act : Act σ β) : Prop :=
  ∀ s failure t, act.outcome s = (.error failure, t) → view t = view s ∨ excuse failure t

variable {view : σ → δ} {excuse : Failure → σ → Prop}

theorem Sure.excused {act : Act σ β} (sure : act.Sure) : act.Excused excuse := by
  intro s failure t run
  obtain ⟨x, u, done⟩ := sure s
  cases done.symm.trans run

theorem Excused.bind {act : Act σ β} {next : β → Act σ γ} (first : act.Excused excuse)
    (rest : ∀ x, (next x).Excused excuse) : (act >>= next).Excused excuse := by
  intro s failure t run
  rcases outcome_bind_eq_error run with failed | ⟨x, u, _, failed⟩
  · exact first s failure t failed
  · exact rest x u failure t failed

theorem Excused.forM {ι : Type} {f : ι → Act σ PUnit} (xs : List ι)
    (each : ∀ x ∈ xs, (f x).Excused excuse) : (xs.forM f).Excused excuse := by
  induction xs with
  | nil => exact (Sure.pure PUnit.unit).excused
  | cons x xs ih =>
    exact (each x (List.mem_cons_self ..)).bind fun _ =>
      ih fun y member => each y (List.mem_cons_of_mem _ member)

theorem Excused.whole {act : Act σ β} (excused : act.Excused excuse) : act.Whole view excuse :=
  fun s failure t run => Or.inr (excused s failure t run)

theorem Sure.whole {act : Act σ β} (sure : act.Sure) : act.Whole view excuse := sure.excused.whole

theorem Whole.throw (failure : Failure) :
    (MonadExcept.throw failure : Act σ β).Whole view excuse := by
  rintro s _ _ ⟨⟩
  exact Or.inl rfl

theorem Whole.bind_sure {act : Act σ β} {next : β → Act σ γ} (first : act.Whole view excuse)
    (rest : ∀ x, (next x).Sure) : (act >>= next).Whole view excuse := by
  intro s failure t run
  rcases outcome_bind_eq_error run with failed | ⟨x, u, _, failed⟩
  · exact first s failure t failed
  · obtain ⟨y, v, done⟩ := rest x u
    cases done.symm.trans failed

theorem Quiet.bind_whole {act : Act σ β} {next : β → Act σ γ} (first : act.Quiet view)
    (rest : ∀ x, (next x).Whole view excuse) : (act >>= next).Whole view excuse := by
  intro s failure t run
  have same := first s
  rcases outcome_bind_eq_error run with failed | ⟨x, u, done, failed⟩
  · rw [failed] at same
    exact Or.inl same
  · rw [done] at same
    rcases rest x u failure t failed with unseen | excused
    · exact Or.inl (unseen.trans same)
    · exact Or.inr excused

theorem Whole.ofFault {check : Except Fault β} {next : β → Act σ γ}
    (rest : ∀ x, check = .ok x → (next x).Whole view excuse) :
    (Act.ofFault check >>= next).Whole view excuse := by
  cases check with
  | error fault => exact .throw fault.toFailure
  | ok x => exact rest x rfl

end Act

section
variable [Scalar α] {sink : Sink α σ} {job : Job α} {view : σ → δ}
  {excuse : Failure → σ → Prop}

theorem placeText_sure (ready : sink.Ready) {font : FontOptions α} {face : String}
    (registered : job.fonts.resolve font.face = .ok face) (page : Nat) (position : Point α)
    (value : String) : (placeText sink job page position value font).Sure := by
  unfold placeText
  rw [registered]
  exact .forM _ fun _ _ => ready.drawText _ _ _ _ _

theorem placeText_unregistered {font : FontOptions α} {fault : Fault}
    (unregistered : job.fonts.resolve font.face = .error fault) (page : Nat) (position : Point α)
    (value : String) : placeText sink job page position value font = throw fault.toFailure := by
  unfold placeText
  rw [unregistered]
  rfl

theorem placeText_whole (ready : sink.Ready) (page : Nat) (position : Point α) (value : String)
    (font : FontOptions α) : (placeText sink job page position value font).Whole view excuse := by
  cases resolved : job.fonts.resolve font.face with
  | ok face => exact (placeText_sure ready resolved page position value).whole
  | error fault =>
    rw [placeText_unregistered resolved]
    exact .throw _

theorem drawTextBox_whole (ready : sink.Ready)
    (widths : ∀ text face size, (sink.stringWidth text face size).Excused excuse)
    (page : Nat) (position : Point α) (size : Size α) (value : String) (font : FontOptions α) :
    (drawTextBox sink job page position size value font).Whole view excuse := by
  refine .ofFault fun text _ => .ofFault fun face _ => Act.Excused.whole ?_
  refine (ready.drawPolyline _ _ _ _).excused.bind fun _ => .forM _ fun line _ => ?_
  exact (widths _ face _).bind fun _ => (ready.drawText _ _ _ _ _).excused

theorem drawMultiLines_sure (ready : sink.Ready) (page : Nat) (start direction offset : Point α)
    (count : Nat) : (drawMultiLines sink job page start direction offset count).Sure := by
  induction count generalizing start with
  | zero => exact .pure ()
  | succ count ih => exact (ready.drawPolyline _ _ _ _).bind fun _ => ih (start + offset)

theorem drawPhoto_whole (ready : sink.Ready) (quiet : (sink.imageSize job.photo).Quiet view)
    (page : Nat) (position : Point α) (size : Size α) :
    (drawPhoto sink job page position size).Whole view excuse :=
  quiet.bind_whole fun _ => .ofFault fun _ _ => (ready.drawImage _ _ _ _ _ _).whole

theorem drawEntries_sure (ready : sink.Ready) {font : FontOptions α} {face : String}
    (registered : job.fonts.resolve font.face = .ok face) (page : Nat) (columns : TableColumns α)
    (y : α) (entries : List Entry) : (drawEntries sink job page columns font y entries).Sure := by
  induction entries generalizing y with
  | nil => exact .pure y
  | cons entry rest ih =>
    have cell := placeText_sure ready registered page
    exact (cell _ _).bind fun _ => (cell _ _).bind fun _ => (cell _ _).bind fun _ => ih _

theorem drawEntries_whole (ready : sink.Ready) (page : Nat) (columns : TableColumns α)
    (font : FontOptions α) (y : α) (entries : List Entry) :
    (drawEntries sink job page columns font y entries).Whole view excuse := by
  cases resolved : job.fonts.resolve font.face with
  | ok face => exact (drawEntries_sure ready resolved page columns y entries).whole
  | error fault =>
    cases entries with
    | nil => exact (Act.Sure.pure y).whole
    | cons entry rest =>
      rw [drawEntries, placeText_unregistered resolved, Act.throw_bind]
      exact .throw _

theorem drawCaptioned_sure (ready : sink.Ready) {font : FontOptions α} {face : String}
    (registered : job.fonts.resolve font.face = .ok face) (page : Nat) (columns : TableColumns α)
    (captionX y : α) (caption : String) (entries : List Entry) :
    (drawCaptioned sink job page columns font captionX y caption entries).Sure :=
  (placeText_sure ready registered page _ _).bind fun _ =>
    drawEntries_sure ready registered page columns _ entries

theorem drawCaptioned_unregistered {font : FontOptions α} {fault : Fault}
    (unregistered : job.fonts.resolve font.face = .error fault) (page : Nat) (columns : TableColumns α)
    (captionX y : α) (caption : String) (entries : List Entry) :
    drawCaptioned sink job page columns font captionX y caption entries = throw fault.toFailure := by
  rw [drawCaptioned, placeText_unregistered unregistered, Act.throw_bind]

/-- A directive that fails leaves what is seen of the state as it was, if questions are not seen. Only
a text box, where the width of a text cannot be told, has an excuse. -/
theorem Directive.draw_whole (ready : sink.Ready) (page : Nat) (directive : Directive α)
    (widths : directive.keyword = .textBox →
      ∀ text face size, (sink.stringWidth text face size).Excused excuse)
    (quiet : ∀ path, (sink.imageSize path).Quiet view) :
    (directive.draw sink job page).Whole view excuse := by
  have turn {act : Act σ Unit} (whole : act.Whole view excuse) :
      (do act; return page).Whole view excuse :=
    whole.bind_sure fun _ => .pure page
  cases directive with
  | string position value font => exact .ofFault fun text _ => turn (placeText_whole ready _ _ _ _)
  | line start delta options => exact turn (ready.drawPolyline _ _ _ _).whole
  | box position size options => exact turn (ready.drawPolyline _ _ _ _).whole
  | photo position size => exact turn (drawPhoto_whole ready (quiet _) _ _ _)
  | newPage => exact ready.newPage.whole
  | textBox position size value font => exact turn (drawTextBox_whole ready (widths rfl) _ _ _ _ _)
  | multiLines start direction count offset =>
    exact turn (drawMultiLines_sure ready _ _ _ _ _).whole
  | polyline count positions options close =>
    cases positions with
    | nil => exact .throw _
    | cons first ways => exact turn (ready.drawPolyline _ _ _ _).whole
  | yearMonthBox title height count value => exact turn (ready.report _).whole
  | miscBox title y height value => exact turn (ready.report _).whole
  | history columns value font =>
    exact .ofFault fun entries _ =>
      (drawEntries_whole ready _ _ _ _ _).bind_sure fun _ => .pure page
  | educationExperience columns captionX endX font =>
    -- all five places ask for the same face, the first caption before anything is drawn
    cases resolved : job.fonts.resolve font.face with
    | ok face =>
      have table := drawCaptioned_sure ready resolved page columns captionX
      refine Act.Sure.whole ((table _ _ _).bind fun _ => (table _ _ _).bind fun _ => ?_)
      exact (placeText_sure ready resolved page _ _).bind fun _ => .pure page
    | error fault =>
      simp only [Directive.draw]
      rw [drawCaptioned_unregistered resolved, Act.throw_bind]
      exact .throw _

end

/-- The width of a text has been asked for last, and the failure is the answer. -/
def Recording.Unmeasured (r : Recording α) (answers : Answers α) (failure : Failure) : Prop :=
  ∃ text face size e, r.calls.head? = some (.stringWidth text face size) ∧
    answers.width text face size = .error e ∧ failure = .fault e

theorem Sink.recording_unmeasured (answers : Answers α) (text face : String) (size : α) :
    ((Sink.recording answers).stringWidth text face size).Excused fun failure t =>
      t.Unmeasured answers failure := by
  intro s failure t run
  rw [recording_stringWidth] at run
  cases answer : answers.width text face size with
  | ok width =>
    rw [answer] at run
    cases run
  | error e =>
    rw [answer] at run
    cases run
    exact ⟨text, face, size, e, rfl, answer, rfl⟩

/-- A rendering that fails has drawn what is before the failing command, and nothing of that; unless it
was left at the question for the width of a text in a frame, to which the sink has no answer. -/
theorem render_whole [Scalar α] (answers : Answers α) (job : Job α) {commands : List (Command α)}
    {r t : Recording α} {failure : Failure}
    (failed : (render (.recording answers) job commands).outcome r = (.error failure, t)) :
    ∃ before command after v, commands = before ++ command :: after ∧
      (render (.recording answers) job before).outcome r = (.ok (), v) ∧
      (render (.recording answers) job (before ++ [command])).outcome r = (.error failure, t) ∧
      r.GoesOn v ∧ r.GoesOn t ∧
      ((r.since t).filter Call.draws = (r.since v).filter Call.draws ∨
        command.directive.keyword = .textBox ∧ ∃ cause, t.Unmeasured answers cause ∧
          failure = cause.locate command.line (some command.directive.keyword.name)) := by
  have ready := Sink.recording_ready answers
  have quiet (path : Path) : ((Sink.recording answers).imageSize path).Quiet
      fun r : Recording α => r.calls.filter Call.draws := by
    intro s
    rw [Sink.recording_imageSize]
    exact List.filter_cons_of_neg (by simp [Call.draws, Call.drawnOn?, Call.opens])
  obtain ⟨before, command, after, last, u, v, split, stopped, rendered, reported, together⟩ :=
    render_error_split ready failed
  obtain ⟨cause, broken, told⟩ := Act.outcome_located_eq_error stopped
  have begun := render_goesOn answers job before r
  have ended := render_goesOn answers job commands r
  rw [rendered] at begun
  rw [failed] at ended
  refine ⟨before, command, after, v, split, rendered, together, begun, ended, ?_⟩
  have widths (frame : command.directive.keyword = .textBox) (text face : String) (size : α) :
      ((Sink.recording answers).stringWidth text face size).Excused fun failure t =>
        command.directive.keyword = .textBox ∧ t.Unmeasured answers failure :=
    fun s failure t run => ⟨frame, Sink.recording_unmeasured answers text face size s failure t run⟩
  rcases Directive.draw_whole ready last command.directive widths quiet u cause t broken with
    same | ⟨frame, unmeasured⟩
  · cases reported
    exact Or.inl (ended.filter_since begun same)
  · exact Or.inr ⟨frame, cause, unmeasured, told⟩

/-- A table without a list, after a line, fails with no more drawn than what is before it. -/
theorem render_whole_history :
    let sink : Sink Rat (Recording Rat) := .recording (.usual ⟨40.0, 30.0⟩)
    let commands : List (Command Rat) :=
      [⟨some 1, .line ⟨0, 0⟩ ⟨20, 0⟩ {}⟩, ⟨some 2, .history ⟨0, 0, 0, 0, 0⟩ "$name" {}⟩]
    let run := (render sink .bare commands).outcome {}
    run.1 = .error (.fault ⟨.textAsList "$name", some 2, some "history", none⟩) ∧
      ∃ before v, before <+: commands ∧ (render sink .bare before).outcome {} = (.ok (), v) ∧
        (Recording.since {} run.2).filter Call.draws = (Recording.since {} v).filter Call.draws := by
  intro sink commands run
  let e : Located Fault := ⟨.textAsList "$name", some 2, some "history", none⟩
  have failed : run = (.error (.fault e), run.2) := rfl
  obtain ⟨before, command, after, v, split, rendered, _, _, _, same⟩ :=
    render_whole (.usual ⟨40.0, 30.0⟩) .bare failed
  have member : command ∈ commands := split ▸ by simp
  have frameless : command.directive.keyword ≠ .textBox := by
    rcases List.mem_pair.mp member with rfl | rfl <;> decide
  exact ⟨congrArg Prod.fst failed, before, v, ⟨command :: after, split.symm⟩, rendered,
    same.resolve_right fun unmeasured => frameless unmeasured.1⟩

/-- A sink that cannot tell how wide a text is has the frame by then: a text box that fails has drawn more than
what is before it. -/
theorem render_unmeasured :
    let font : Path := ⟨.here, ["mincho.ttf"]⟩
    let job : Job Rat := { Job.bare with fonts := ⟨[("mincho", font)]⟩ }
    let unread : Located Fault := ⟨.unloadableFont "mincho" font "no font", none, none, none⟩
    let sink : Sink Rat (Recording Rat) := .recording ⟨fun _ _ _ => .error unread, fun _ => .ok ⟨40, 30⟩⟩
    let line : Command Rat := ⟨some 1, .line ⟨0, 0⟩ ⟨20, 0⟩ {}⟩
    let before := (render sink job [line]).outcome {}
    let run := (render sink job [line, ⟨some 2, .textBox ⟨20, 30⟩ ⟨40, 10⟩ "A" {}⟩]).outcome {}
    before.1 = .ok () ∧ run.1 = .error ((Failure.fault unread).locate (some 2) (some "textbox")) ∧
      (Recording.since {} run.2).filter Call.draws = (Recording.since {} before.2).filter Call.draws ++
        [.polyline 1 [⟨20, 20⟩, ⟨60, 20⟩, ⟨60, 30⟩, ⟨20, 30⟩] true {}] :=
  ⟨rfl, rfl, by decide +kernel⟩

end Rirekisho
