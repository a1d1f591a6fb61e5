import Mathlib.Algebra.Ring.Rat
import Mathlib.Tactic.Ring
import Rirekisho.Proofs.Drawing.Recording

namespace Rirekisho

/-- Coordinates that lie as far apart as two margins do. -/
theorem Recording.moved_jobs (job : Job Rat) (a b : Rat) (r t : Recording Rat) :
    (moved id (· + (b - a)) r t).Jobs { job with margin := a } { job with margin := b } where
  fonts := rfl
  photo := rfl
  margin x := show x + b = x + a + (b - a) by ring
  add {x y} d apart := by
    obtain rfl : y = x + (b - a) := apart
    exact show x + (b - a) + d = x + d + (b - a) by ring
  sub {x y} d apart := by
    obtain rfl : y = x + (b - a) := apart
    exact show x + (b - a) - d = x - d + (b - a) by ring

/-- With another margin, rendering has the same outcome and makes the same calls in the same order, on
the same pages; only that every origin and every vertex is moved by the difference of the margins. -/
theorem render_margin (answers : Answers Rat) (job : Job Rat) (a b : Rat)
    (commands : List (Command Rat)) (r : Recording Rat) :
    let run (margin : Rat) :=
      (render (.recording answers) { job with margin := margin } commands).outcome r
    (∀ margin, r.GoesOn (run margin).2) ∧ (run b).1 = (run a).1 ∧
      r.since (run b).2 = (r.since (run a).2).map (Call.map id (· + (b - a))) := by
  intro run
  have jobs := Recording.moved_jobs job a b r r
  have alike := Pairing.render_alike (Recording.moved_sinks answers _) jobs
    (fun _ _ _ _ same => same ▸ rfl) (Recording.moved_newPage answers fun _ => rfl) commands
    fun command _ => .refl job.record command.directive
  exact ⟨fun margin => render_goesOn answers { job with margin := margin } commands r,
    Recording.moved_since alike rfl⟩

end Rirekisho
