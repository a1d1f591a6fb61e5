import Rirekisho.Proofs.Drawing.Recording
import Rirekisho.Proofs.Script.Reading

namespace Rirekisho

variable {α σ β : Type}

/-- The failure is a fault that tells no line and no keyword yet. -/
def Failure.Unplaced : Failure → Prop
  | .fault e => e.line = none ∧ e.keyword = none
  | _ => False

/-- A sink that does what it is asked for. Only questions may have no answer, and then it tells why
without knowing of the script. -/
structure Sink.Obliging (sink : Sink α σ) : Prop extends sink.Ready where
  stringWidth text face size :
    (sink.stringWidth text face size).Keeps (fun _ => True) Failure.Unplaced fun _ => True
  imageSize path : (sink.imageSize path).Keeps (fun _ => True) Failure.Unplaced fun _ => True

theorem Act.Sure.keeps {act : Act σ β} (sure : act.Sure) {failures : Failure → Prop} :
    act.Keeps (fun _ => True) failures fun _ => True := by
  intro s _
  obtain ⟨x, t, run⟩ := sure s
  exact Or.inl ⟨x, t, run, trivial, trivial⟩

/-- A sink that records is obliging, when its answers know nothing of the script. -/
theorem Sink.recording_obliging {answers : Answers α}
    (widths : ∀ text face size e, answers.width text face size = .error e → Failure.Unplaced (.fault e))
    (sizes : ∀ path e, answers.natural path = .error e → Failure.Unplaced (.fault e)) :
    (Sink.recording answers).Obliging where
  toReady := recording_ready answers
  stringWidth text face size := by
    intro r _
    rw [recording_stringWidth]
    cases answer : answers.width text face size with
    | ok width => exact Or.inl ⟨width, _, rfl, trivial, trivial⟩
    | error e => exact Or.inr ⟨.fault e, _, rfl, widths _ _ _ e answer, trivial⟩
  imageSize path := by
    intro r _
    rw [recording_imageSize]
    cases answer : answers.natural path with
    | ok size => exact Or.inl ⟨size, _, rfl, trivial, trivial⟩
    | error e => exact Or.inr ⟨.fault e, _, rfl, sizes _ e answer, trivial⟩

theorem Sink.Obliging.keeps {sink : Sink α σ} (obliging : sink.Obliging) (fonts : FontRegistry) :
    sink.Keeps (fun _ => True) Failure.Unplaced (fun _ => True) fonts where
  drawText _ _ _ _ _ := (obliging.drawText _ _ _ _ _).keeps
  drawPolyline _ _ _ _ := (obliging.drawPolyline _ _ _ _).keeps
  drawImage _ _ _ _ _ _ := (obliging.drawImage _ _ _ _ _ _).keeps
  stringWidth _ text size := obliging.stringWidth text _ size
  imageSize := obliging.imageSize
  report report := (obliging.report report).keeps
  unplaced _ _ := ⟨rfl, rfl⟩

variable [Scalar α] {sink : Sink α σ} {job : Job α}

theorem recorder_obliging (natural : Size α) : (recorder natural).Obliging :=
  Sink.recording_obliging (fun _ _ _ _ unanswered => by cases unanswered) fun _ _ unanswered => by
    cases unanswered

/-- A command that fails does so with a fault, which tells the line and the keyword of the command. -/
theorem Command.draw_told (obliging : sink.Obliging) {command : Command α} {page : Nat} {s t : σ}
    {failure : Failure} (failed : (command.draw sink job page).outcome s = (.error failure, t)) :
    ∃ e, failure = .fault e ∧ e.line = command.line ∧ e.keyword = some command.directive.keyword.name := by
  obtain ⟨cause, stopped, rfl⟩ := Act.outcome_located_eq_error failed
  have keeps : (command.directive.draw sink job page).Keeps (fun _ => True) Failure.Unplaced
      fun _ => True :=
    Directive.draw_keeps (obliging.keeps job.fonts) trivial command.directive fun _ =>
      obliging.newPage.keeps
  have unplaced := (keeps.of_error trivial stopped).1
  cases cause with
  | fault e =>
    obtain ⟨line, keyword⟩ := unplaced
    exact ⟨_, rfl, by simp [Located.locate, line], by simp [Located.locate, keyword]⟩
  | _ => exact unplaced.elim

/-- A script read and its commands drawn. -/
def drawScript (sink : Sink Float σ) (job : Job Float) (script : String) : Act σ Unit := do
  let commands ← Act.ofResult ((Script.read script).mapError .fault)
  render sink job commands

/-- The fault tells the number and the first word of a line of the script. The lines before it can be
read, and that line itself cannot; or the whole script can be read, the commands before that line can
be drawn, and with the command on it the same fault comes up. -/
def Script.Blames (sink : Sink Float σ) (job : Job Float) (script : String) (s : σ)
    (e : Located Fault) : Prop :=
  let lines := Text.lines script.toList
  ∃ (n : Nat) (line : List Char) (before : List (Command Float)),
    1 ≤ n ∧ n ≤ lines.length ∧ lines[n - 1]? = some line ∧
    e.line = some (n : Int) ∧ e.keyword = some (firstWord line) ∧
    readLines 1 (lines.take (n - 1)) = .ok before ∧
    (readLine n line = .error e ∨
      ∃ command after, read script = .ok (before ++ command :: after) ∧
        readLine n line = .ok (some command) ∧
        ((render sink job before).outcome s).1 = .ok () ∧
        ((render sink job (before ++ [command])).outcome s).1 = .error (.fault e))

theorem Script.line_of_split {script : String} {earlier later : List (List Char)} {line : List Char}
    (split : Text.lines script.toList = earlier ++ line :: later) :
    1 + earlier.length ≤ (Text.lines script.toList).length ∧
      (Text.lines script.toList)[1 + earlier.length - 1]? = some line ∧
      (Text.lines script.toList).take (1 + earlier.length - 1) = earlier := by
  rw [Nat.add_sub_cancel_left, split, List.length_append, List.length_cons]
  exact ⟨by omega, by simp, List.take_left' rfl⟩

section
variable {sink : Sink Float σ} {script : String} {e : Located Fault}

theorem Script.Blames.of_unread (job : Job Float) (s : σ) (unread : read script = .error e) :
    Blames sink job script s e := by
  obtain ⟨earlier, line, later, before, split, done, stopped⟩ := readLines_error unread
  obtain ⟨bound, here, taken⟩ := line_of_split split
  obtain ⟨number, word⟩ := readLine_error stopped
  refine ⟨1 + earlier.length, line, before, by omega, bound, here, number, word, ?_, Or.inl stopped⟩
  rw [taken, done]

theorem Script.Blames.of_undrawn (obliging : sink.Obliging) {job : Job Float}
    {commands : List (Command Float)} {s t : σ} {failure : Failure} (parsed : read script = .ok commands)
    (failed : (render sink job commands).outcome s = (.error failure, t)) :
    ∃ e, failure = .fault e ∧ Blames sink job script s e := by
  obtain ⟨before, command, after, last, u, v, rfl, stopped, rendered, _, together⟩ :=
    render_error_split obliging.toReady failed
  obtain ⟨e, rfl, place, keyword⟩ := Command.draw_told obliging stopped
  obtain ⟨earlier, line, later, split, done, own⟩ := readLines_ok parsed
  obtain ⟨bound, here, taken⟩ := line_of_split split
  obtain ⟨number, word⟩ := readLine_some own
  refine ⟨e, rfl, 1 + earlier.length, line, before, by omega, bound, here, place.trans number,
    keyword.trans (congrArg some word), ?_, Or.inr ⟨command, after, parsed, own, ?_, ?_⟩⟩
  · rw [taken, done]
  · rw [rendered]
  · rw [together]

end

/-- Whatever the script, it is drawn to its end, or left with a fault that tells its place in it. -/
theorem drawScript_told {sink : Sink Float σ} (obliging : sink.Obliging) (job : Job Float)
    (script : String) (s : σ) :
    let result := ((drawScript sink job script).outcome s).1
    result = .ok () ∨ ∃ e, result = .error (.fault e) ∧ Script.Blames sink job script s e := by
  intro result
  cases parsed : Script.read script with
  | error e =>
    have stopped : result = .error (.fault e) := by
      simp only [result, drawScript, parsed, Except.mapError, Act.ofResult_error, Act.throw_bind,
        Act.outcome_throw]
    exact Or.inr ⟨e, stopped, .of_unread job s parsed⟩
  | ok commands =>
    have drawn : result = ((render sink job commands).outcome s).1 := by
      simp only [result, drawScript, parsed, Except.mapError, Act.ofResult_ok, pure_bind]
    rw [drawn]
    cases run : (render sink job commands).outcome s with
    | mk outcome t =>
      cases outcome with
      | ok _ => exact Or.inl rfl
      | error failure =>
        obtain ⟨e, rfl, blames⟩ := Script.Blames.of_undrawn obliging parsed run
        exact Or.inr ⟨e, rfl, blames⟩

/-- A table without a list on the second line. -/
theorem drawScript_told_history :
    let sink : Sink Float (Recording Float) := recorder ⟨40.0, 30.0⟩
    let script := "new_page\nhistory, 0, 0, 0, 0, 0, $name"
    let e : Located Fault := ⟨.textAsList "$name", some 2, some "history", none⟩
    sink.Obliging ∧ ((drawScript sink .bare script).outcome {}).1 = .error (.fault e) ∧
      Script.Blames sink .bare script {} e := by
  intro sink script e
  have obliging : sink.Obliging := recorder_obliging ⟨40.0, 30.0⟩
  have failed : ((drawScript sink .bare script).outcome {}).1 = .error (.fault e) := by
    unfold script
    rfl
  rcases drawScript_told obliging .bare script {} with done | ⟨_, same, blames⟩
  · cases failed.symm.trans done
  · cases failed.symm.trans same
    exact ⟨obliging, failed, blames⟩

end Rirekisho
