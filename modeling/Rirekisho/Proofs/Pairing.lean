import Mathlib.Data.List.Forall2
import Rirekisho.Drawing.Renderer
import Rirekisho.Proofs.Outcome

namespace Rirekisho

/-- What belongs together in two drawings. -/
structure Pairing (α σ τ : Type) where
  states : σ → τ → Prop
  failures : Failure → Failure → Prop
  pages : Nat → Nat → Prop
  /-- The coordinates of places on a page. -/
  coordinates : α → α → Prop

namespace Pairing

variable {α σ τ β γ δ ε : Type}

/-- Outcomes that belong together: two results or two failures, and the states after them. -/
inductive Agree (π : Pairing α σ τ) (results : β → γ → Prop) :
    Except Failure β × σ → Except Failure γ × τ → Prop
  | ok {x y s t} : results x y → π.states s t → Agree π results (.ok x, s) (.ok y, t)
  | error {f g s t} : π.failures f g → π.states s t → Agree π results (.error f, s) (.error g, t)

/-- The computations have outcomes that belong together, from whatever states that do. -/
def Alike (π : Pairing α σ τ) (results : β → γ → Prop) (a : Act σ β) (b : Act τ γ) : Prop :=
  ∀ s t, π.states s t → π.Agree results (a.outcome s) (b.outcome t)

/-- The computations are alike, but that the first one may be stopped on its way, by a failure that the
second one knows nothing of. -/
def Follows (π : Pairing α σ τ) (stops : Failure → Prop) (results : β → γ → Prop) (a : Act σ β)
    (b : Act τ γ) : Prop :=
  ∀ s t, π.states s t → π.Agree results (a.outcome s) (b.outcome t) ∨
    ∃ failure, (a.outcome s).1 = .error failure ∧ stops failure

/-- Places whose coordinates belong together. -/
def places (π : Pairing α σ τ) (p q : Point α) : Prop :=
  π.coordinates p.x q.x ∧ π.coordinates p.y q.y

theorem places_mk {π : Pairing α σ τ} {x x' y y' : α} (across : π.coordinates x x')
    (up : π.coordinates y y') : π.places ⟨x, y⟩ ⟨x', y'⟩ :=
  ⟨across, up⟩

variable {π : Pairing α σ τ} {results : β → γ → Prop} {further : δ → ε → Prop}

/-- Where only equal coordinates belong together, only equal places do. -/
theorem places_eq (equal : π.coordinates = Eq) {p q : Point α} (near : π.places p q) : p = q := by
  rw [places, equal] at near
  obtain ⟨across, up⟩ := near
  cases p
  cases q
  cases across
  cases up
  rfl

theorem points_eq (equal : π.coordinates = Eq) {points points' : List (Point α)}
    (along : List.Forall₂ π.places points points') : points = points' := by
  rw [← List.forall₂_eq_eq_eq]
  exact along.imp fun _ _ => places_eq equal

theorem Agree.states {u : Except Failure β × σ} {v : Except Failure γ × τ}
    (agree : π.Agree results u v) : π.states u.2 v.2 := by
  cases agree with
  | ok _ kept => exact kept
  | error _ kept => exact kept

theorem Agree.result_eq {u : Except Failure β × σ} {v : Except Failure β × τ}
    (agree : π.Agree Eq u v) (told : ∀ f g, π.failures f g → f = g) : v.1 = u.1 := by
  cases agree with
  | ok related _ => rw [related]
  | error related _ => rw [told _ _ related]

/-- The outcomes are the same but for their results. -/
theorem Agree.map_eq {u : Except Failure β × σ} {v : Except Failure γ × τ} (agree : π.Agree results u v)
    (told : ∀ f g, π.failures f g → f = g) : v.1.map (fun _ => ()) = u.1.map (fun _ => ()) := by
  cases agree with
  | ok _ _ => rfl
  | error related _ => rw [told _ _ related]; rfl

theorem Alike.mono {more : β → γ → Prop} {a : Act σ β} {b : Act τ γ} (alike : π.Alike results a b)
    (wider : ∀ x y, results x y → more x y) : π.Alike more a b := by
  intro s t together
  have agree := alike s t together
  generalize a.outcome s = u at agree ⊢
  generalize b.outcome t = v at agree ⊢
  cases agree with
  | ok related kept => exact .ok (wider _ _ related) kept
  | error related kept => exact .error related kept

theorem Alike.follows {stops : Failure → Prop} {a : Act σ β} {b : Act τ γ} (alike : π.Alike results a b) :
    π.Follows stops results a b :=
  fun s t together => Or.inl (alike s t together)

/-- What nothing stops is alike. -/
theorem Follows.alike {a : Act σ β} {b : Act τ γ} (follows : π.Follows (fun _ => False) results a b) :
    π.Alike results a b := by
  intro s t together
  rcases follows s t together with agree | ⟨_, _, never⟩
  · exact agree
  · exact never.elim

section
variable {stops : Failure → Prop}

theorem Follows.pure {x : β} {y : γ} (related : results x y) :
    π.Follows stops results (Pure.pure x) (Pure.pure y) :=
  fun _ _ together => Or.inl (.ok related together)

theorem Follows.throw {f g : Failure} (related : π.failures f g) :
    π.Follows stops results (MonadExcept.throw f) (MonadExcept.throw g) :=
  fun _ _ together => Or.inl (.error related together)

theorem Follows.bind {a : Act σ β} {b : Act τ γ} {next : β → Act σ δ} {after : γ → Act τ ε}
    (first : π.Follows stops results a b)
    (rest : ∀ x y, results x y → π.Follows stops further (next x) (after y)) :
    π.Follows stops further (a >>= next) (b >>= after) := by
  intro s t together
  rw [Act.outcome_bind, Act.outcome_bind]
  rcases first s t together with agree | ⟨failure, stopped, stop⟩
  · cases ha : a.outcome s with
    | mk u s' =>
      cases hb : b.outcome t with
      | mk v t' =>
        rw [ha, hb] at agree
        cases agree with
        | ok related kept => exact rest _ _ related _ _ kept
        | error related kept => exact Or.inl (.error related kept)
  · cases ha : a.outcome s with
    | mk u s' =>
      rw [ha] at stopped
      cases stopped
      exact Or.inr ⟨failure, rfl, stop⟩

theorem Follows.forM {ι : Type} {f : ι → Act σ PUnit} {g : ι → Act τ PUnit} (xs : List ι)
    (each : ∀ x ∈ xs, π.Follows stops Eq (f x) (g x)) : π.Follows stops Eq (xs.forM f) (xs.forM g) := by
  induction xs with
  | nil => exact Follows.pure rfl
  | cons x xs ih =>
    exact (each x (List.mem_cons_self ..)).bind fun _ _ _ =>
      ih fun y member => each y (List.mem_cons_of_mem _ member)

theorem Follows.located {a : Act σ β} {b : Act τ γ} (line : Option Int) (keyword : Option String)
    (follows : π.Follows stops results a b)
    (told : ∀ f g, π.failures f g → π.failures (f.locate line keyword) (g.locate line keyword))
    (stopped : ∀ f, stops f → stops (f.locate line keyword)) :
    π.Follows stops results (a.located line keyword) (b.located line keyword) := by
  intro s t together
  rw [Act.outcome_located, Act.outcome_located]
  rcases follows s t together with agree | ⟨failure, broken, stop⟩
  · generalize a.outcome s = u at agree ⊢
    generalize b.outcome t = v at agree ⊢
    cases agree with
    | ok related kept => exact Or.inl (.ok related kept)
    | error related kept => exact Or.inl (.error (told _ _ related) kept)
  · exact Or.inr ⟨failure.locate line keyword, by rw [broken]; rfl, stopped failure stop⟩

end

end Pairing

end Rirekisho
