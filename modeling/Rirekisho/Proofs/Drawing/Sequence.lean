import Rirekisho.Drawing.Renderer
import Rirekisho.Proofs.Outcome

namespace Rirekisho

variable {α σ : Type} [Scalar α] {sink : Sink α σ} {job : Job α}

/-- An empty record, to be drawn without faces and without a margin. -/
def Job.bare : Job α where
  record := ⟨fun _ => "", Path.ofText "photo.jpg", fun _ => []⟩
  fonts := ⟨[]⟩
  margin := 0.0
  photo := Path.ofText "photo.jpg"

theorem drawAll_append (page : Nat) (commands more : List (Command α)) :
    drawAll sink job page (commands ++ more) =
      drawAll sink job page commands >>= fun page => drawAll sink job page more := by
  induction commands generalizing page with
  | nil => simp only [List.nil_append, drawAll, pure_bind]
  | cons command rest ih => simp only [List.cons_append, drawAll, ih, bind_assoc]

theorem drawAll_append_ok {page last : Nat} {commands : List (Command α)} {s t : σ}
    (drawn : (drawAll sink job page commands).outcome s = (.ok last, t)) (more : List (Command α)) :
    (drawAll sink job page (commands ++ more)).outcome s = (drawAll sink job last more).outcome t := by
  rw [drawAll_append, Act.outcome_bind_ok drawn]

theorem drawAll_singleton (page : Nat) (command : Command α) :
    drawAll sink job page [command] = command.draw sink job page := by
  simp only [drawAll, bind_pure]

/-- A failing drawing stops in one command, and the commands before it have been drawn. -/
theorem drawAll_error {page : Nat} {commands : List (Command α)} {s t : σ} {failure : Failure}
    (failed : (drawAll sink job page commands).outcome s = (.error failure, t)) :
    ∃ before command after last u, commands = before ++ command :: after ∧
      (drawAll sink job page before).outcome s = (.ok last, u) ∧
      (command.draw sink job last).outcome u = (.error failure, t) := by
  induction commands generalizing page s with
  | nil => cases failed
  | cons command rest ih =>
    rcases Act.outcome_bind_eq_error failed with here | ⟨next, u, drawn, later⟩
    · exact ⟨[], command, rest, page, s, rfl, rfl, here⟩
    · obtain ⟨before, culprit, after, last, v, split, passed, stopped⟩ := ih later
      refine ⟨command :: before, culprit, after, last, v, by rw [split]; rfl, ?_, stopped⟩
      exact (Act.outcome_bind_ok drawn _).trans passed

/-- Commands drawn on a new page and on those after it. The result is the last page. -/
def drawPages (sink : Sink α σ) (job : Job α) (commands : List (Command α)) : Act σ Nat := do
  let page ← sink.newPage
  drawAll sink job page commands

theorem render_eq (commands : List (Command α)) : render sink job commands =
    drawPages sink job commands >>= fun _ => sink.report (.rendered commands.length) := by
  rw [render, drawPages, bind_assoc]

/-- What is drawn on pages is drawn on from the last one. -/
theorem drawPages_append (commands more : List (Command α)) :
    drawPages sink job (commands ++ more) =
      drawPages sink job commands >>= fun page => drawAll sink job page more := by
  simp only [drawPages, drawAll_append, bind_assoc]

theorem drawPages_snoc {before : List (Command α)} {command : Command α} {last page : Nat} {s t u : σ}
    (begun : (drawPages sink job before).outcome s = (.ok last, t))
    (drawn : (command.draw sink job last).outcome t = (.ok page, u)) :
    (drawPages sink job (before ++ [command])).outcome s = (.ok page, u) := by
  rw [drawPages_append, Act.outcome_bind_ok begun, drawAll_singleton, drawn]

/-- Where a command cannot be drawn after those before it, rendering ends. -/
theorem render_stopped {before : List (Command α)} {command : Command α} {last : Nat} {s t u : σ}
    {failure : Failure} (begun : (drawPages sink job before).outcome s = (.ok last, t))
    (stopped : (command.draw sink job last).outcome t = (.error failure, u)) (after : List (Command α)) :
    (render sink job (before ++ command :: after)).outcome s = (.error failure, u) := by
  rw [render_eq, drawPages_append]
  have failed : (drawAll sink job last (command :: after)).outcome t = (.error failure, u) :=
    Act.outcome_bind_error stopped _
  exact Act.outcome_bind_error ((Act.outcome_bind_ok begun _).trans failed) _

theorem render_ok {commands : List (Command α)} {s t u : σ} {page last : Nat}
    (ready : sink.Ready) (opened : sink.newPage.outcome s = (.ok page, t))
    (drawn : (drawAll sink job page commands).outcome t = (.ok last, u)) :
    ∃ v, (render sink job commands).outcome s = (.ok (), v) ∧
      (sink.report (.rendered commands.length)).outcome u = (.ok (), v) := by
  obtain ⟨_, v, reported⟩ := ready.report (.rendered commands.length) u
  refine ⟨v, ?_, reported⟩
  unfold render
  rw [Act.outcome_bind_ok opened, Act.outcome_bind_ok drawn, reported]

theorem render_error {commands : List (Command α)} {s t u : σ} {page : Nat} {failure : Failure}
    (opened : sink.newPage.outcome s = (.ok page, t))
    (failed : (drawAll sink job page commands).outcome t = (.error failure, u)) :
    (render sink job commands).outcome s = (.error failure, u) := by
  unfold render
  rw [Act.outcome_bind_ok opened, Act.outcome_bind_error failed]

/-- When rendering fails, one command is to blame: those before it can be rendered, and together with
it they fail in the same way. -/
theorem render_error_split {commands : List (Command α)} {s t : σ} {failure : Failure}
    (ready : sink.Ready) (failed : (render sink job commands).outcome s = (.error failure, t)) :
    ∃ before command after last u v, commands = before ++ command :: after ∧
      (command.draw sink job last).outcome u = (.error failure, t) ∧
      (render sink job before).outcome s = (.ok (), v) ∧
      (sink.report (.rendered before.length)).outcome u = (.ok (), v) ∧
      (render sink job (before ++ [command])).outcome s = (.error failure, t) := by
  obtain ⟨page, opened, opening⟩ := ready.newPage s
  unfold render at failed
  rw [Act.outcome_bind_ok opening] at failed
  rcases Act.outcome_bind_eq_error failed with drawing | ⟨last, u, _, reporting⟩
  · obtain ⟨before, command, after, last, u, split, drawn, stopped⟩ := drawAll_error drawing
    obtain ⟨v, rendered, reported⟩ := render_ok ready opening drawn
    have together :
        (drawAll sink job page (before ++ [command])).outcome opened = (.error failure, t) := by
      rw [drawAll_append_ok drawn, drawAll_singleton, stopped]
    exact ⟨before, command, after, last, u, v, split, stopped, rendered, reported,
      render_error opening together⟩
  · obtain ⟨_, v, reported⟩ := ready.report (.rendered commands.length) u
    rw [reported] at reporting
    cases reporting

end Rirekisho
