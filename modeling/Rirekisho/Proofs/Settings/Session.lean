import Rirekisho.Settings.Session

namespace Rirekisho.Session

/-- What happens in a session: something is done with settings, or the files and the environment become
others. -/
inductive Event where
  | step (step : Step)
  | change (disk : Disk) (environment : Environment)

/-- Something done with settings, and what it came to. -/
structure Deed where
  step : Step
  outcome : Except Failure Made

/-- What is done in the course of events, the first first, and the session after it. -/
def run : List Event → Session → List Deed × Session
  | [], session => ([], session)
  | .change disk environment :: rest, session =>
    run rest { session with disk := disk, environment := environment }
  | .step step :: rest, session =>
    let (outcome, after) := session.step step
    let (deeds, last) := run rest after
    (⟨step, outcome⟩ :: deeds, last)

namespace Deed

/-- The settings of a reload, if it has not failed. -/
def reloaded? : Deed → Option Made
  | ⟨.reload _, .ok made⟩ => some made
  | _ => none

/-- The settings that have been asked for, if there were any. -/
def got? : Deed → Option Made
  | ⟨.get, .ok made⟩ => some made
  | _ => none

theorem outcome_of_reloaded? {deed : Deed} {made : Made} (reloaded : deed.reloaded? = some made) :
    deed.outcome = .ok made := by
  unfold reloaded? at reloaded
  split at reloaded
  · cases reloaded
    rfl
  · cases reloaded

theorem outcome_of_got? {deed : Deed} {made : Made} (got : deed.got? = some made) : deed.outcome = .ok made := by
  unfold got? at got
  split at got
  · cases got
    rfl
  · cases got

end Deed

/-- The settings that stand after what has been done: those of the last reload that has not failed, or if
there was none, the first ones that have been got. -/
def standing? (deeds : List Deed) : Option Made :=
  (deeds.reverse.findSome? Deed.reloaded?).or (deeds.findSome? Deed.got?)

/-- Nothing that has been done has come to these settings. -/
def New (deeds : List Deed) (made : Made) : Prop :=
  ∀ deed ∈ deeds, ∀ other, deed.outcome = .ok other → other.number ≠ made.number

variable {deeds : List Deed} {session : Session} {made : Made}

theorem standing?_concat (deeds : List Deed) (deed : Deed) :
    standing? (deeds ++ [deed]) = deed.reloaded?.or ((standing? deeds).or deed.got?) := by
  unfold standing?
  rw [List.reverse_concat, List.findSome?_cons, List.findSome?_append, List.findSome?_singleton, Option.or_assoc]
  cases deed.reloaded? with
  | none => rfl
  | some made => rfl

theorem mem_of_standing? (standing : standing? deeds = some made) : ∃ deed ∈ deeds, deed.outcome = .ok made := by
  rcases Option.or_eq_some_iff.mp standing with reloaded | ⟨_, got⟩
  · obtain ⟨deed, member, found⟩ := List.exists_of_findSome?_eq_some reloaded
    exact ⟨deed, List.mem_reverse.mp member, deed.outcome_of_reloaded? found⟩
  · obtain ⟨deed, member, found⟩ := List.exists_of_findSome?_eq_some got
    exact ⟨deed, member, deed.outcome_of_got? found⟩

/-- The session keeps the settings that stand, and its number is beyond those of all settings made. -/
structure Keeps (deeds : List Deed) (session : Session) : Prop where
  kept : session.kept = standing? deeds
  numbered : ∀ deed ∈ deeds, ∀ made, deed.outcome = .ok made → made.number < session.count

namespace Keeps

/-- What is done last leaves the settings that stand, or puts its own in their place: those of a reload at
once, those that have been got only if none stand. -/
theorem concat (keeps : Keeps deeds session) {deed : Deed} {after : Session}
    (kept : after.kept = deed.reloaded?.or (session.kept.or deed.got?)) (count : session.count ≤ after.count)
    (numbered : ∀ made, deed.outcome = .ok made → made.number < after.count) :
    Keeps (deeds ++ [deed]) after where
  kept := by rw [kept, keeps.kept, standing?_concat]
  numbered := by
    intro done member made outcome
    rcases List.mem_append.mp member with before | last
    · exact Nat.lt_of_lt_of_le (keeps.numbered done before made outcome) count
    · cases List.mem_singleton.mp last
      exact numbered made outcome

/-- A number that the session counts to next is new. -/
theorem new (keeps : Keeps deeds session) (settings : Settings) : New deeds ⟨session.count, settings⟩ :=
  fun deed member other outcome => Nat.ne_of_lt (keeps.numbered deed member other outcome)

theorem number_lt (keeps : Keeps deeds session) (kept : session.kept = some made) :
    made.number < session.count := by
  obtain ⟨deed, member, outcome⟩ := mem_of_standing? (keeps.kept.symm.trans kept)
  exact keeps.numbered deed member made outcome

/-- Settings that are made without being kept. -/
theorem make (keeps : Keeps deeds session) {step : Step} (outcome : Except Failure Settings)
    (apart : ∀ result, Deed.reloaded? ⟨step, result⟩ = none ∧ Deed.got? ⟨step, result⟩ = none) :
    Keeps (deeds ++ [⟨step, (session.make outcome).1⟩]) (session.make outcome).2 := by
  have kept (result : Except Failure Made) :
      session.kept = (Deed.reloaded? ⟨step, result⟩).or (session.kept.or (Deed.got? ⟨step, result⟩)) := by
    rw [(apart result).1, (apart result).2, Option.or_none, Option.none_or]
  cases outcome with
  | error failure => exact keeps.concat (kept _) (Nat.le_refl _) nofun
  | ok settings =>
    refine keeps.concat (kept _) (Nat.le_succ _) fun made same => ?_
    cases same
    exact Nat.lt_succ_self _

/-- Settings that are made and kept, by a reload or because none stand. -/
theorem makeKept (keeps : Keeps deeds session) {step : Step} (outcome : Except Failure Settings)
    (failed : ∀ failure, Deed.reloaded? ⟨step, .error failure⟩ = none ∧ Deed.got? ⟨step, .error failure⟩ = none)
    (taken : ∀ made, (Deed.reloaded? ⟨step, .ok made⟩).or (session.kept.or (Deed.got? ⟨step, .ok made⟩)) =
      some made) :
    Keeps (deeds ++ [⟨step, (session.makeKept outcome).1⟩]) (session.makeKept outcome).2 := by
  cases outcome with
  | error failure =>
    refine keeps.concat ?_ (Nat.le_refl _) nofun
    change session.kept =
      (Deed.reloaded? ⟨step, .error failure⟩).or (session.kept.or (Deed.got? ⟨step, .error failure⟩))
    rw [(failed failure).1, (failed failure).2, Option.or_none, Option.none_or]
  | ok settings =>
    refine keeps.concat (taken _).symm (Nat.le_succ _) fun made same => ?_
    cases same
    exact Nat.lt_succ_self _

theorem step (keeps : Keeps deeds session) (step : Step) :
    Keeps (deeds ++ [⟨step, (session.step step).1⟩]) (session.step step).2 := by
  cases step with
  | build given => exact keeps.make _ fun _ => ⟨rfl, rfl⟩
  | load path => exact keeps.make _ fun _ => ⟨rfl, rfl⟩
  | reload path => exact keeps.makeKept _ (fun _ => ⟨rfl, rfl⟩) fun _ => rfl
  | get =>
    unfold Session.step
    dsimp only
    cases kept : session.kept with
    | some made =>
      refine keeps.concat ?_ (Nat.le_refl _) fun other same => ?_
      · rw [kept]
        rfl
      · cases same
        exact keeps.number_lt kept
    | none =>
      refine keeps.makeKept _ (fun _ => ⟨rfl, rfl⟩) fun made => ?_
      rw [kept]
      rfl

theorem run (keeps : Keeps deeds session) (events : List Event) :
    Keeps (deeds ++ (Session.run events session).1) (Session.run events session).2 := by
  induction events generalizing deeds session with
  | nil => rwa [Session.run, List.append_nil]
  | cons event rest ih =>
    cases event with
    | change disk environment =>
      have changed : Keeps deeds { session with disk := disk, environment := environment } :=
        ⟨keeps.kept, keeps.numbered⟩
      exact ih changed
    | step step =>
      have further := ih (keeps.step step)
      rwa [List.append_assoc] at further

end Keeps

/-- The step makes new settings of a file and the environment as they are now, and they are kept; or this
fails, and the session stays as it is. -/
def Renews (deeds : List Deed) (session : Session) (step : Step) (path : Path) : Prop :=
  match Settings.load session.disk session.environment path with
  | .ok settings => ∃ made, made.settings = settings ∧ New deeds made ∧
      (session.step step).1 = .ok made ∧ (session.step step).2.kept = some made
  | .error failure => session.step step = (.error failure, session)

theorem Keeps.renews (keeps : Keeps deeds session) {step : Step} {path : Path}
    (makes : session.step step = session.makeKept (session.settingsAt path)) :
    Renews deeds session step path := by
  unfold Renews
  rw [makes, settingsAt]
  cases Settings.load session.disk session.environment path with
  | ok settings => exact ⟨_, rfl, keeps.new settings, rfl, rfl⟩
  | error failure => rfl

/-- Whatever happens from the start on: the settings that stand after what has been done are kept, and who asks
gets them. Who asks while none stand, or reloads, gets new settings, or else nothing changes. -/
theorem run_keeps_standing (disk : Disk) (environment : Environment) (events : List Event) :
    let deeds := (run events (start disk environment)).1
    let session := (run events (start disk environment)).2
    session.kept = standing? deeds ∧
      (match standing? deeds with
        | some made => session.step .get = (.ok made, session)
        | none => Renews deeds session .get Settings.usualPath) ∧
      ∀ path : Option Path, Renews deeds session (.reload path) (path.getD Settings.usualPath) := by
  have begun : Keeps [] (start disk environment) := ⟨rfl, List.forall_mem_nil _⟩
  have keeps := begun.run events
  rw [List.nil_append] at keeps
  generalize run events (start disk environment) = course at keeps ⊢
  refine ⟨keeps.kept, ?_, fun path => keeps.renews rfl⟩
  cases standing : standing? course.1 with
  | some made =>
    dsimp only
    rw [Session.step, keeps.kept, standing]
  | none =>
    refine keeps.renews ?_
    rw [Session.step, keeps.kept, standing]

end Rirekisho.Session
