import Mathlib.Data.List.Defs
import Rirekisho.Proofs.Drawing.Layout

namespace Rirekisho

variable {α : Type} [Scalar α] (answers : Answers α) (job : Job α)

/-- The call for a line of the script: the margin is added to its start, and not to the way to its end. -/
def strokeCall (page : Nat) (direction place : Point α) : Call α :=
  let start : Point α := ⟨place.x + job.margin, place.y + job.margin⟩
  .polyline page [start, ⟨start.x + direction.x, start.y + direction.y⟩] false {}

/-- Commands for lines in one direction, with the usual options. -/
def lineCommands (line : Option Int) (direction : Point α) (places : List (Point α)) : List (Command α) :=
  places.map fun place => ⟨line, .line place direction {}⟩

variable (page : Nat) (direction offset : Point α) (line : Option Int)

theorem drawLine_makes (place : Point α) :
    (drawLine (.recording answers) job page place direction {}).Makes () [strokeCall job page direction place] :=
  fun _ => rfl

theorem drawMultiLines_makes (start : Point α) (count : Nat) :
    (drawMultiLines (.recording answers) job page start direction offset count).Makes ()
      ((List.iterate (· + offset) start count).map (strokeCall job page direction)) := by
  induction count generalizing start with
  | zero => exact .pure ()
  | succ count ih => exact (drawLine_makes answers job page direction start).bind (ih (start + offset))

theorem drawAll_lineCommands (places : List (Point α)) :
    (drawAll (.recording answers) job page (lineCommands line direction places)).Makes page
      (places.map (strokeCall job page direction)) := by
  induction places with
  | nil => exact .pure page
  | cons place rest ih =>
    have here := ((drawLine_makes answers job page direction place).turn page).located line (some "line")
    exact here.bind ih

theorem multiLines_makes (start : Point α) (count : Nat) :
    ((Command.mk line (.multiLines start direction count offset)).draw (.recording answers) job page).Makes page
      ((List.iterate (· + offset) start count).map (strokeCall job page direction)) :=
  ((drawMultiLines_makes answers job page direction offset start count).turn page).located line _

/-- Commands that make the same calls as others can stand in their place before any commands. -/
theorem drawAll_append_congr {commands others : List (Command α)} {calls : List (Call α)}
    (made : (drawAll (.recording answers) job page commands).Makes page calls)
    (remade : (drawAll (.recording answers) job page others).Makes page calls) (after : List (Command α)) :
    drawAll (.recording answers) job page (commands ++ after) =
      drawAll (.recording answers) job page (others ++ after) := by
  funext r
  exact (drawAll_append_ok (made r) after).trans (drawAll_append_ok (remade r) after).symm

/-- Wherever it stands in a script, the command for parallel lines comes to the calls of lines from the start and from
one offset after the other, each with the margin added once, and is as good as the commands for these lines. -/
theorem render_multiLines (start : Point α) (count : Nat) (before after : List (Command α)) (r : Recording α) :
    let command : Command α := ⟨line, .multiLines start direction count offset⟩
    let places := List.iterate (· + offset) start count
    let run commands := (render (.recording answers) job commands).outcome r
    let together := run (before ++ command :: after)
    let apart := run (before ++ (lineCommands line direction places ++ after))
    (∀ page t, (command.draw (.recording answers) job page).outcome t =
        (.ok page, t.addAll (places.map (strokeCall job page direction)))) ∧
      together.1 = apart.1 ∧ together.2.calls = apart.2.calls := by
  intro command places run together apart
  have one (page : Nat) : (drawAll (.recording answers) job page [command]).Makes page
      (places.map (strokeCall job page direction)) := by
    rw [drawAll_singleton]
    exact multiLines_makes answers job page direction offset line start count
  have same (page : Nat) : drawAll (.recording answers) job page (command :: after) =
      drawAll (.recording answers) job page (lineCommands line direction places ++ after) :=
    drawAll_append_congr answers job page (one page)
      (drawAll_lineCommands answers job page direction line places) after
  have whole : drawAll (.recording answers) job (r.pages + 1) (before ++ command :: after) =
      drawAll (.recording answers) job (r.pages + 1) (before ++ (lineCommands line direction places ++ after)) := by
    rw [drawAll_append, drawAll_append]
    simp only [same]
  -- Rendering starts on a page of its own, and what it records is told by the commands from there on.
  obtain ⟨result, calls, _⟩ := render_recording answers job (before ++ command :: after) r
  obtain ⟨otherResult, otherCalls, _⟩ :=
    render_recording answers job (before ++ (lineCommands line direction places ++ after)) r
  rw [whole] at result calls
  exact ⟨fun page => multiLines_makes answers job page direction offset line start count,
    result.trans otherResult.symm, calls.trans otherCalls.symm⟩

end Rirekisho
