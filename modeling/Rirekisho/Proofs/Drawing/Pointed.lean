import Rirekisho.Proofs.Drawing.Named

namespace Rirekisho

variable {α σ : Type}

/-- The sink, with something else done where a line has no points. -/
def Sink.withPointless (sink : Sink α σ) (instead : Nat → Bool → LineOptions α → Act σ Unit) : Sink α σ :=
  { sink with
    drawPolyline := fun page points closed options =>
      match points with
      | [] => instead page closed options
      | first :: rest => sink.drawPolyline page (first :: rest) closed options }

theorem Sink.withPointless_sinks (job : Job α) (sink : Sink α σ)
    (instead : Nat → Bool → LineOptions α → Act σ Unit) :
    Pairing.free.Sinks job.fonts (sink.withPointless instead) sink :=
  { sink.free_sinks job with
    drawPolyline := fun {_ _ points _} here some along closed options => by
      obtain ⟨first, rest, rfl⟩ := List.exists_cons_of_ne_nil some
      exact (sink.free_sinks job).drawPolyline here some along closed options }

variable [Scalar α]

/-- The renderer never asks for a line without points. -/
theorem render_withPointless (sink : Sink α σ) (instead : Nat → Bool → LineOptions α → Act σ Unit) (job : Job α)
    (commands : List (Command α)) (s : σ) :
    (render (sink.withPointless instead) job commands).outcome s = (render sink job commands).outcome s := by
  have same (page : Nat) :
      drawAll (sink.withPointless instead) job page commands = drawAll sink job page commands := by
    refine funext fun s => (Pairing.drawAll_alike (sink.withPointless_sinks job instead) (.same rfl job) ?_
      sink.newPage.free_alike ⟨rfl, trivial⟩ commands
        fun command _ => .refl job.record command.directive).outcome_eq s
    rintro line keyword failure _ ⟨rfl, -⟩
    exact ⟨rfl, trivial⟩
  simp only [render, same]
  rfl

theorem vertices_of_some {positions : List (Point α)} (some : positions ≠ []) (offset : Point α) :
    ∃ first rest, vertices positions offset = .ok (first :: rest) := by
  obtain ⟨start, ways, rfl⟩ := List.exists_cons_of_ne_nil some
  cases ways with
  | nil => exact ⟨_, _, rfl⟩
  | cons way ways => exact ⟨_, _, rfl⟩

end Rirekisho
