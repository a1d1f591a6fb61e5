import Rirekisho.Drawing.Sink

namespace Rirekisho

variable {α σ β γ : Type}

namespace Act

@[simp] theorem outcome_pure (x : β) (s : σ) : (pure x : Act σ β).outcome s = (.ok x, s) := rfl

@[simp] theorem outcome_throw (failure : Failure) (s : σ) :
    (throw failure : Act σ β).outcome s = (.error failure, s) := rfl

@[simp] theorem outcome_get_bind (next : σ → Act σ β) (s : σ) :
    ((get : Act σ σ) >>= next).outcome s = (next s).outcome s := rfl

@[simp] theorem outcome_set_bind (t : σ) (next : PUnit → Act σ β) (s : σ) :
    ((set t : Act σ PUnit) >>= next).outcome s = (next ⟨⟩).outcome t := rfl

@[simp] theorem ofResult_ok (x : β) : (ofResult (.ok x) : Act σ β) = pure x := rfl

@[simp] theorem ofResult_error (failure : Failure) :
    (ofResult (.error failure) : Act σ β) = throw failure := rfl

@[simp] theorem ofFault_ok (x : β) : (ofFault (.ok x) : Act σ β) = pure x := rfl

theorem outcome_bind (act : Act σ β) (next : β → Act σ γ) (s : σ) :
    (act >>= next).outcome s =
      match act.outcome s with
      | (.ok x, t) => (next x).outcome t
      | (.error failure, t) => (.error failure, t) := by
  show (ExceptT.bindCont next (act.outcome s).1) (act.outcome s).2 = _
  cases act.outcome s with
  | mk result t => cases result <;> rfl

theorem outcome_bind_ok {act : Act σ β} {s t : σ} {x : β} (run : act.outcome s = (.ok x, t))
    (next : β → Act σ γ) : (act >>= next).outcome s = (next x).outcome t := by
  rw [outcome_bind, run]

theorem outcome_bind_error {act : Act σ β} {s t : σ} {failure : Failure}
    (run : act.outcome s = (.error failure, t)) (next : β → Act σ γ) :
    (act >>= next).outcome s = (.error failure, t) := by
  rw [outcome_bind, run]

theorem outcome_bind_pure (act : Act σ β) (f : β → γ) (s : σ) :
    (act >>= fun x => pure (f x)).outcome s = ((act.outcome s).1.map f, (act.outcome s).2) := by
  rw [outcome_bind]
  cases act.outcome s with
  | mk result t => cases result <;> rfl

theorem outcome_bind_eq_ok {act : Act σ β} {next : β → Act σ γ} {s t : σ} {y : γ}
    (run : (act >>= next).outcome s = (.ok y, t)) :
    ∃ x u, act.outcome s = (.ok x, u) ∧ (next x).outcome u = (.ok y, t) := by
  rw [outcome_bind] at run
  cases first : act.outcome s with
  | mk result u =>
    cases result with
    | error failure => simp [first] at run
    | ok x => exact ⟨x, u, rfl, by simpa only [first] using run⟩

theorem outcome_bind_eq_error {act : Act σ β} {next : β → Act σ γ} {s t : σ} {failure : Failure}
    (run : (act >>= next).outcome s = (.error failure, t)) :
    act.outcome s = (.error failure, t) ∨
      ∃ x u, act.outcome s = (.ok x, u) ∧ (next x).outcome u = (.error failure, t) := by
  rw [outcome_bind] at run
  cases first : act.outcome s with
  | mk result u =>
    cases result with
    | error other =>
      simp only [first] at run
      cases run
      exact Or.inl rfl
    | ok x => exact Or.inr ⟨x, u, rfl, by simpa only [first] using run⟩

theorem outcome_tryCatch (act : Act σ β) (handle : Failure → Act σ β) (s : σ) :
    (tryCatch act handle).outcome s =
      match act.outcome s with
      | (.ok x, t) => (.ok x, t)
      | (.error failure, t) => (handle failure).outcome t := by
  unfold outcome
  simp only [tryCatch, tryCatchThe, MonadExceptOf.tryCatch, ExceptT.tryCatch, ExceptT.mk, ExceptT.run,
    StateT.run, bind, StateT.bind]
  cases act s with
  | mk result t => cases result <;> rfl

theorem outcome_located (line : Option Int) (keyword : Option String) (act : Act σ β) (s : σ) :
    (act.located line keyword).outcome s =
      ((act.outcome s).1.mapError (Failure.locate line keyword), (act.outcome s).2) := by
  rw [located, outcome_tryCatch]
  cases act.outcome s with
  | mk result t => cases result <;> rfl

@[simp] theorem outcome_located_state (line : Option Int) (keyword : Option String) (act : Act σ β)
    (s : σ) : ((act.located line keyword).outcome s).2 = (act.outcome s).2 := by
  rw [outcome_located]

theorem outcome_located_eq_ok {line : Option Int} {keyword : Option String} {act : Act σ β} {s t : σ}
    {x : β} (run : (act.located line keyword).outcome s = (.ok x, t)) :
    act.outcome s = (.ok x, t) := by
  rw [outcome_located] at run
  cases first : act.outcome s with
  | mk result u =>
    rw [first] at run
    cases result <;> cases run
    rfl

theorem outcome_located_eq_error {line : Option Int} {keyword : Option String} {act : Act σ β} {s t : σ}
    {failure : Failure} (run : (act.located line keyword).outcome s = (.error failure, t)) :
    ∃ cause, act.outcome s = (.error cause, t) ∧ failure = cause.locate line keyword := by
  rw [outcome_located] at run
  cases first : act.outcome s with
  | mk result u =>
    rw [first] at run
    cases result <;> cases run
    exact ⟨_, rfl, rfl⟩

@[simp] theorem throw_bind (failure : Failure) (next : β → Act σ γ) :
    (throw failure : Act σ β) >>= next = throw failure := rfl

/-- The computation never fails. -/
def Sure (act : Act σ β) : Prop := ∀ s, ∃ x t, act.outcome s = (.ok x, t)

theorem Sure.pure (x : β) : (Pure.pure x : Act σ β).Sure := fun s => ⟨x, s, rfl⟩

theorem Sure.bind {act : Act σ β} {next : β → Act σ γ} (first : act.Sure) (rest : ∀ x, (next x).Sure) :
    (act >>= next).Sure := by
  intro s
  obtain ⟨x, t, run⟩ := first s
  obtain ⟨y, u, further⟩ := rest x t
  exact ⟨y, u, (outcome_bind_ok run next).trans further⟩

theorem Sure.forM {ι : Type} {f : ι → Act σ PUnit} (xs : List ι) (each : ∀ x ∈ xs, (f x).Sure) :
    (xs.forM f).Sure := by
  induction xs with
  | nil => exact Sure.pure PUnit.unit
  | cons x xs ih =>
    exact (each x (List.mem_cons_self ..)).bind fun _ =>
      ih fun y member => each y (List.mem_cons_of_mem _ member)

end Act

theorem result_bind_eq_ok {ε : Type} {result : Except ε β} {next : β → Except ε γ} {y : γ} :
    (result >>= next) = .ok y ↔ ∃ x, result = .ok x ∧ next x = .ok y := by
  cases result with
  | error failure =>
    constructor
    · rintro ⟨⟩
    · rintro ⟨_, ⟨⟩, _⟩
  | ok x =>
    constructor
    · exact fun rest => ⟨x, rfl, rest⟩
    · rintro ⟨_, ⟨⟩, rest⟩
      exact rest

theorem exists_ok_of_any {ε β : Type} {outcome : Except ε β} {p : β → Bool}
    (passes : outcome.toOption.any p = true) : ∃ x, outcome = .ok x ∧ p x = true := by
  cases outcome with
  | error e => cases passes
  | ok x => exact ⟨x, rfl, passes⟩

/-- The result is good, or a failure that is told. -/
def Ends (told : Failure → Prop) (good : β → Prop) : Except Failure β → Prop
  | .ok x => good x
  | .error failure => told failure

namespace Ends

variable {told : Failure → Prop} {good : β → Prop} {result : Except Failure β}

theorem bind {further : γ → Prop} {next : β → Except Failure γ} (first : Ends told good result)
    (rest : ∀ x, good x → Ends told further (next x)) : Ends told further (result >>= next) := by
  cases result with
  | error failure => exact first
  | ok x => exact rest x first

theorem mono {more : Failure → Prop} {weaker : β → Prop} (ends : Ends told good result)
    (failures : ∀ failure, told failure → more failure) (results : ∀ x, good x → weaker x) :
    Ends more weaker result := by
  cases result with
  | error failure => exact failures failure ends
  | ok x => exact results x ends

theorem map {further : γ → Prop} {f : β → γ} (ends : Ends told good result)
    (results : ∀ x, good x → further (f x)) : Ends told further (result.map f) := by
  cases result with
  | error failure => exact ends
  | ok x => exact results x ends

theorem ite (c : Prop) [Decidable c] {other : Except Failure β} (yes : Ends told good result)
    (no : Ends told good other) : Ends told good (if c then result else other) := by
  split
  · exact yes
  · exact no

theorem of_error {failure : Failure} (ends : Ends told good result) (stopped : result = .error failure) :
    told failure := by
  rw [stopped] at ends
  exact ends

end Ends

/-- A sink on which every page is opened, every drawing is done and every report is taken down. -/
structure Sink.Ready (sink : Sink α σ) : Prop where
  newPage : sink.newPage.Sure
  drawText page text origin face size : (sink.drawText page text origin face size).Sure
  drawPolyline page points closed options : (sink.drawPolyline page points closed options).Sure
  drawImage page path origin natural scaleX scaleY :
    (sink.drawImage page path origin natural scaleX scaleY).Sure
  report report : (sink.report report).Sure

end Rirekisho
