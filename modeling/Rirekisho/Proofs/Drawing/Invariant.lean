import Rirekisho.Proofs.Drawing.Parallel

namespace Rirekisho

variable {α σ β γ : Type}

/-- From states with the invariant, the computation reaches only such states; its results and its
failures have their properties. -/
def Act.Keeps (invariant : σ → Prop) (failures : Failure → Prop) (results : β → Prop)
    (act : Act σ β) : Prop :=
  ∀ s, invariant s →
    (∃ x t, act.outcome s = (.ok x, t) ∧ results x ∧ invariant t) ∨
    ∃ failure t, act.outcome s = (.error failure, t) ∧ failures failure ∧ invariant t

namespace Act.Keeps

variable {invariant : σ → Prop} {failures : Failure → Prop} {results : β → Prop}

theorem pure {x : β} (good : results x) : (Pure.pure x : Act σ β).Keeps invariant failures results :=
  fun s holds => Or.inl ⟨x, s, rfl, good, holds⟩

theorem throw {failure : Failure} (told : failures failure) :
    (MonadExcept.throw failure : Act σ β).Keeps invariant failures results :=
  fun s holds => Or.inr ⟨failure, s, rfl, told, holds⟩

theorem bind {further : γ → Prop} {act : Act σ β} {next : β → Act σ γ}
    (first : act.Keeps invariant failures results)
    (rest : ∀ x, results x → (next x).Keeps invariant failures further) :
    (act >>= next).Keeps invariant failures further := by
  intro s holds
  rcases first s holds with ⟨x, t, run, good, kept⟩ | ⟨failure, t, run, told, kept⟩
  · rw [outcome_bind_ok run]
    exact rest x good t kept
  · exact Or.inr ⟨failure, t, outcome_bind_error run next, told, kept⟩

/-- Nothing is asked of the results and the failures of what leaves the invariant as it is. -/
theorem of_outcome {act : Act σ β} (kept : ∀ s, invariant s → invariant (act.outcome s).2) :
    act.Keeps invariant (fun _ => True) fun _ => True := by
  intro s holds
  have after := kept s holds
  cases run : act.outcome s with
  | mk result t =>
    rw [run] at after
    cases result with
    | ok x => exact Or.inl ⟨x, t, rfl, trivial, after⟩
    | error failure => exact Or.inr ⟨failure, t, rfl, trivial, after⟩

end Act.Keeps

/-- A drawing and itself. -/
def Pairing.itself (invariant : σ → Prop) (failures : Failure → Prop) (pages : Nat → Prop) :
    Pairing α σ σ where
  states s t := s = t ∧ invariant s
  failures f g := f = g ∧ failures f
  pages m n := m = n ∧ pages m
  coordinates := Eq

section
variable {invariant : σ → Prop} {failures : Failure → Prop} {pages : Nat → Prop} {act : Act σ β}

theorem Act.Keeps.alike {results : β → Prop} (keeps : act.Keeps invariant failures results) :
    (Pairing.itself (α := α) invariant failures pages).Alike (fun x y => x = y ∧ results x) act act := by
  rintro s _ ⟨rfl, holds⟩
  rcases keeps s holds with ⟨x, t, run, result, kept⟩ | ⟨failure, t, run, failed, kept⟩
  · rw [run]; exact .ok ⟨rfl, result⟩ ⟨rfl, kept⟩
  · rw [run]; exact .error ⟨rfl, failed⟩ ⟨rfl, kept⟩

theorem Act.Keeps.of_alike {results : β → Prop}
    (alike : (Pairing.itself (α := α) invariant failures pages).Alike (fun x y => x = y ∧ results x)
      act act) : act.Keeps invariant failures results := by
  intro s holds
  have agree := alike s s ⟨rfl, holds⟩
  cases run : act.outcome s with
  | mk result t =>
    rw [run] at agree
    cases agree with
    | ok related kept => exact Or.inl ⟨_, _, rfl, related.2, kept.2⟩
    | error related kept => exact Or.inr ⟨_, _, rfl, related.2, kept.2⟩

theorem Act.Keeps.of_ok {results : β → Prop} (keeps : act.Keeps invariant failures results) {s t : σ} {x : β}
    (holds : invariant s) (run : act.outcome s = (.ok x, t)) : results x ∧ invariant t := by
  rcases keeps s holds with ⟨_, _, same, kept⟩ | ⟨_, _, same, _⟩
  · cases run.symm.trans same
    exact kept
  · cases run.symm.trans same

theorem Act.Keeps.of_error {results : β → Prop} (keeps : act.Keeps invariant failures results) {s t : σ}
    {failure : Failure} (holds : invariant s) (run : act.outcome s = (.error failure, t)) :
    failures failure ∧ invariant t := by
  rcases keeps s holds with ⟨_, _, same, _⟩ | ⟨_, _, same, kept⟩
  · cases run.symm.trans same
  · cases run.symm.trans same
    exact kept

theorem Act.Keeps.after {results : β → Prop} (keeps : act.Keeps invariant failures results) {s : σ}
    (holds : invariant s) : invariant (act.outcome s).2 := by
  rcases keeps s holds with ⟨_, _, run, _, kept⟩ | ⟨_, _, run, _, kept⟩
  · rw [run]; exact kept
  · rw [run]; exact kept

end

variable [Scalar α]

/-- A sink that keeps an invariant, asked for things on pages and in faces that it may be asked for. -/
structure Sink.Keeps (invariant : σ → Prop) (failures : Failure → Prop) (pages : Nat → Prop)
    (fonts : FontRegistry) (sink : Sink α σ) : Prop where
  drawText {page : Nat} {face : String} : pages page → face ∈ fonts.names → ∀ text origin size,
    (sink.drawText page text origin face size).Keeps invariant failures fun _ => True
  drawPolyline {page : Nat} {points : List (Point α)} : pages page → points ≠ [] → ∀ closed options,
    (sink.drawPolyline page points closed options).Keeps invariant failures fun _ => True
  drawImage {page : Nat} : pages page → ∀ path origin natural scaleX scaleY,
    (sink.drawImage page path origin natural scaleX scaleY).Keeps invariant failures fun _ => True
  stringWidth {face : String} : face ∈ fonts.names → ∀ text size,
    (sink.stringWidth text face size).Keeps invariant failures fun _ => True
  imageSize path : (sink.imageSize path).Keeps invariant failures fun _ => True
  report report : (sink.report report).Keeps invariant failures fun _ => True
  unplaced fault field : failures (.fault ⟨fault, none, none, field⟩)

variable {invariant : σ → Prop} {failures : Failure → Prop} {pages : Nat → Prop} {sink : Sink α σ}
  {job : Job α}

omit [Scalar α] in
theorem Sink.Keeps.sinks (keeps : sink.Keeps invariant failures pages job.fonts) :
    (Pairing.itself invariant failures pages).Sinks job.fonts sink sink := by
  have silent {β : Type} {act : Act σ β} (kept : act.Keeps invariant failures fun _ => True) :
      (Pairing.itself (α := α) invariant failures pages).Alike Eq act act :=
    kept.alike.mono fun _ _ related => related.1
  constructor
  case drawText =>
    rintro p _ o o' face ⟨rfl, here⟩ place member text size
    cases Pairing.places_eq rfl place
    exact silent (keeps.drawText here member text o size)
  case drawPolyline =>
    rintro p _ points points' ⟨rfl, here⟩ some along closed options
    cases Pairing.points_eq rfl along
    exact silent (keeps.drawPolyline here some closed options)
  case drawImage =>
    rintro p _ o o' ⟨rfl, here⟩ place path natural scaleX scaleY
    cases Pairing.places_eq rfl place
    exact silent (keeps.drawImage here path o natural scaleX scaleY)
  case stringWidth => exact fun member text size => silent (keeps.stringWidth member text size)
  case imageSize => exact fun path => silent (keeps.imageSize path)
  case report => exact fun report => silent (keeps.report report)
  case unplaced => exact fun fault field => ⟨rfl, keeps.unplaced fault field⟩

/-- Directives keep what the sink keeps. One that opens no page needs nothing to be known of how pages
are opened. -/
theorem Directive.draw_keeps (keeps : sink.Keeps invariant failures pages job.fonts) {page : Nat}
    (here : pages page) (directive : Directive α)
    (opens : directive = .newPage → sink.newPage.Keeps invariant failures pages) :
    (directive.draw sink job page).Keeps invariant failures pages :=
  .of_alike (Pairing.draw_alike keeps.sinks (.same rfl job) ⟨rfl, here⟩ directive
    (.refl job.record directive) fun opening => (opens opening).alike)

section
-- what is true of a state with its last page, and is kept on every page and taken over to a new one
variable {holds : Nat → σ → Prop} {page last : Nat} {s t : σ}
  (keeps : ∀ page, sink.Keeps (holds page) (fun _ => True) (· = page) job.fonts)
  (opens : ∀ {page last s t}, holds page s → sink.newPage.outcome s = (.ok last, t) → holds last t)
include keeps opens

theorem Command.draw_holds {command : Command α} (here : holds page s)
    (run : (command.draw sink job page).outcome s = (.ok last, t)) : holds last t := by
  have drawn := Act.outcome_located_eq_ok run
  by_cases opening : command.directive = .newPage
  · rw [opening] at drawn
    exact opens here drawn
  · have stays := Directive.draw_keeps (keeps page) rfl command.directive (absurd · opening)
    obtain ⟨rfl, kept⟩ := stays.of_ok here drawn
    exact kept

theorem drawAll_holds {commands : List (Command α)} (here : holds page s)
    (run : (drawAll sink job page commands).outcome s = (.ok last, t)) : holds last t := by
  induction commands generalizing page s with
  | nil =>
    cases run
    exact here
  | cons command rest ih =>
    obtain ⟨next, between, first, others⟩ := Act.outcome_bind_eq_ok run
    exact ih (Command.draw_holds keeps opens here first) others

end

theorem drawAll_keeps (keeps : sink.Keeps invariant failures pages job.fonts)
    (told : ∀ line keyword failure, failures failure → failures (failure.locate line keyword))
    (opens : sink.newPage.Keeps invariant failures pages) {page : Nat} (here : pages page)
    (commands : List (Command α)) :
    (drawAll sink job page commands).Keeps invariant failures pages := by
  refine .of_alike (Pairing.drawAll_alike keeps.sinks (.same rfl job) ?_ opens.alike
    ⟨rfl, here⟩ commands fun command _ => .refl job.record command.directive)
  rintro line keyword failure _ ⟨rfl, holds⟩
  exact ⟨rfl, told line keyword failure holds⟩

theorem render_keeps (keeps : sink.Keeps invariant failures pages job.fonts)
    (told : ∀ line keyword failure, failures failure → failures (failure.locate line keyword))
    (opens : sink.newPage.Keeps invariant failures pages) (commands : List (Command α)) :
    (render sink job commands).Keeps invariant failures fun _ => True := by
  have alike := Pairing.render_alike keeps.sinks (.same rfl job) ?_ opens.alike commands
    fun command _ => .refl job.record command.directive
  · exact .of_alike (alike.mono fun _ _ same => ⟨same, trivial⟩)
  · rintro line keyword failure _ ⟨rfl, holds⟩
    exact ⟨rfl, told line keyword failure holds⟩

end Rirekisho
