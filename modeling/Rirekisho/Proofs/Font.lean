import Mathlib.Data.List.Forall2
import Mathlib.Data.List.Nodup
import Rirekisho.Font
import Rirekisho.Proofs.Value.Lookup

namespace Rirekisho

namespace FontRegistry

variable {β : Type}

theorem names_register (name : String) (x : β) (faces : List (String × β)) :
    (register name x faces).map (·.1) =
      if name ∈ faces.map (·.1) then faces.map (·.1) else faces.map (·.1) ++ [name] := by
  induction faces with
  | nil => rfl
  | cons face rest ih =>
    obtain ⟨n, y⟩ := face
    by_cases same : n = name
    · simp [register, same]
    · simp only [register, if_neg same, List.map_cons, ih, List.mem_cons, Ne.symm same, false_or]
      split <;> rfl

/-- A face is registered once. -/
theorem nodup_registerAll (faces : List (String × β)) : ((registerAll faces).map (·.1)).Nodup := by
  have step (done : List (String × β)) (once : (done.map (·.1)).Nodup) :
      ((faces.foldl (fun done face => register face.1 face.2 done) done).map (·.1)).Nodup := by
    induction faces generalizing done with
    | nil => exact once
    | cons face rest ih =>
      refine ih _ ?_
      rw [names_register]
      split
      next => exact once
      next fresh => exact List.nodup_append_comm.mp (List.nodup_cons.mpr ⟨fresh, once⟩)
  exact step [] List.nodup_nil

theorem nodup_ofList (faces : List (String × Path)) : (ofList faces).names.Nodup := nodup_registerAll faces

theorem mem_register {name : String} {x : β} {faces : List (String × β)} {face : String × β}
    (member : face ∈ register name x faces) : face = (name, x) ∨ face ∈ faces := by
  induction faces with
  | nil => exact .inl (List.mem_singleton.mp member)
  | cons first rest ih =>
    obtain ⟨n, y⟩ := first
    rw [register] at member
    split at member
    next same =>
      subst same
      exact (List.mem_cons.mp member).imp_right (List.mem_cons_of_mem _)
    next =>
      rcases List.mem_cons.mp member with same | later
      · exact .inr (List.mem_cons.mpr (.inl same))
      · exact (ih later).imp_right (List.mem_cons_of_mem _)

theorem mem_of_mem_registerAll {faces : List (String × β)} {face : String × β} (member : face ∈ registerAll faces) :
    face ∈ faces := by
  have step (done : List (String × β))
      (within : face ∈ faces.foldl (fun done face => register face.1 face.2 done) done) :
      face ∈ done ∨ face ∈ faces := by
    clear member
    induction faces generalizing done with
    | nil => exact .inl within
    | cons first rest ih =>
      rcases ih _ within with before | later
      · exact (mem_register before).symm.imp_right fun same => List.mem_cons.mpr (.inl same)
      · exact .inr (List.mem_cons_of_mem _ later)
  exact (step [] member).resolve_left List.not_mem_nil

theorem find?_register (name other : String) (x : β) (faces : List (String × β)) :
    ((register name x faces).find? (·.1 == other)).map (·.2) =
      if name == other then some x else (faces.find? (·.1 == other)).map (·.2) := by
  induction faces with
  | nil =>
    rw [register, List.find?_cons]
    cases name == other <;> rfl
  | cons face rest ih =>
    obtain ⟨n, y⟩ := face
    rw [register]
    split
    next same =>
      subst same
      rw [List.find?_cons, List.find?_cons]
      cases n == other <;> rfl
    next apart =>
      rw [List.find?_cons, List.find?_cons]
      cases here : n == other with
      | false => exact ih
      | true =>
        have elsewhere : ¬ (name == other) = true := fun there =>
          apart ((beq_iff_eq.mp here).trans (beq_iff_eq.mp there).symm)
        rw [if_neg elsewhere]

/-- What is found under a name is what was registered last with it. -/
theorem find?_registerAll (name : String) (faces : List (String × β)) :
    ((registerAll faces).find? (·.1 == name)).map (·.2) = lastOf? (· == name) faces := by
  have found : ((registerAll faces).find? (·.1 == name)).map (·.2) = (lastOf? (· == name) faces).or none :=
    lastOf?_foldl (fun done face => register face.1 face.2 done) (fun done => (done.find? (·.1 == name)).map (·.2))
      (fun done own x => find?_register own name x done) faces []
  exact found.trans Option.or_none

theorem lastOf?_of_nodup {faces : List (String × β)} (once : (faces.map (·.1)).Nodup) (name : String) :
    lastOf? (· == name) faces = (faces.find? (·.1 == name)).map (·.2) := by
  induction faces with
  | nil => rfl
  | cons face rest ih =>
    obtain ⟨n, x⟩ := face
    obtain ⟨fresh, others⟩ := List.nodup_cons.mp once
    rw [lastOf?_cons, List.find?_cons, ih others]
    cases here : n == name with
    | false => exact Option.or_none
    | true =>
      have gone : rest.find? (·.1 == name) = none := by
        refine List.find?_eq_none.mpr fun other member same => fresh ?_
        rw [beq_iff_eq.mp here, ← beq_iff_eq.mp same]
        exact List.mem_map.mpr ⟨other, member, rfl⟩
      rw [gone]
      rfl

theorem lastOf?_registerAll (name : String) (faces : List (String × β)) :
    lastOf? (· == name) (registerAll faces) = lastOf? (· == name) faces :=
  (lastOf?_of_nodup (nodup_registerAll faces) name).trans (find?_registerAll name faces)

end FontRegistry

section
variable {κ β : Type} {changed : κ → Prop}

/-- What two entries in the same place have in common: the key, and the value too unless the key has changed. -/
def Matches (changed : κ → Prop) (entry other : κ × β) : Prop :=
  entry.1 = other.1 ∧ (entry.2 = other.2 ∨ changed entry.1)

/-- Entries that go on from others: in the place of each there is one that matches it, and whatever comes after them
has changed. -/
inductive Revised (changed : κ → Prop) : List (κ × β) → List (κ × β) → Prop
  | done {more : List (κ × β)} (fresh : ∀ entry ∈ more, changed entry.1) : Revised changed [] more
  | next {entry other : κ × β} {rest upper : List (κ × β)} (first : Matches changed entry other)
      (later : Revised changed rest upper) : Revised changed (entry :: rest) (other :: upper)

variable {under upper : List (κ × β)}

theorem Revised.of_forall₂ (all : List.Forall₂ (Matches changed) under upper) : Revised changed under upper := by
  induction all with
  | nil => exact .done (List.forall_mem_nil _)
  | cons first _ ih => exact .next first ih

theorem Revised.refl (entries : List (κ × β)) : Revised changed entries entries :=
  .of_forall₂ (List.forall₂_same.mpr fun _ _ => ⟨rfl, .inl rfl⟩)

/-- What has not changed keeps its value and its place. -/
theorem Revised.getElem? (revised : Revised changed under upper) {i : Nat} {key : κ} {x : β}
    (found : under[i]? = some (key, x)) (same : ¬ changed key) : upper[i]? = some (key, x) := by
  induction revised generalizing i with
  | done fresh => cases found
  | @next entry other rest upper first later ih =>
    cases i with
    | zero =>
      cases found
      obtain ⟨named, kept | new⟩ := first
      · exact congrArg some (Prod.ext named.symm kept.symm)
      · exact absurd new same
    | succ i => exact ih found

end

namespace FontRegistry

variable {β : Type} {changed : String → Prop} {under upper : List (String × β)}

theorem forall₂_register {name : String} {x y : β} (kept : x = y ∨ changed name)
    (all : List.Forall₂ (Matches changed) under upper) :
    List.Forall₂ (Matches changed) (register name x under) (register name y upper) := by
  induction all with
  | nil => exact .cons ⟨rfl, kept⟩ .nil
  | @cons entry other rest more first later ih =>
    obtain ⟨n, u⟩ := entry
    obtain ⟨m, v⟩ := other
    obtain ⟨rfl, held⟩ := first
    rw [register, register]
    dsimp only
    split
    next same => exact .cons ⟨rfl, same ▸ kept⟩ later
    next => exact .cons ⟨rfl, held⟩ ih

theorem revised_register {name : String} (new : changed name) (x : β) (revised : Revised changed under upper) :
    Revised changed under (register name x upper) := by
  induction revised with
  | done fresh =>
    refine .done fun face member => ?_
    rcases mem_register member with rfl | known
    · exact new
    · exact fresh face known
  | @next entry other rest upper first later ih =>
    obtain ⟨n, u⟩ := entry
    obtain ⟨m, v⟩ := other
    obtain ⟨rfl, held⟩ := first
    rw [register]
    dsimp only
    split
    next same => exact .next ⟨rfl, .inr (same ▸ new)⟩ later
    next => exact .next ⟨rfl, held⟩ ih

/-- Faces that go on from others go on from them still when both are registered. -/
theorem revised_registerAll (revised : Revised changed under upper) :
    Revised changed (registerAll under) (registerAll upper) := by
  -- As long as faces are left below, none is new yet: until then what has been registered matches face by face.
  have step (before after : List (String × β)) (all : List.Forall₂ (Matches changed) before after) :
      Revised changed (under.foldl (fun done face => register face.1 face.2 done) before)
        (upper.foldl (fun done face => register face.1 face.2 done) after) := by
    induction revised generalizing before after with
    | @done more fresh =>
      have kept := Revised.of_forall₂ all
      clear all
      induction more generalizing after with
      | nil => exact kept
      | cons face rest ih =>
        obtain ⟨own, others⟩ := List.forall_mem_cons.mp fresh
        exact ih others _ (revised_register own face.2 kept)
    | @next entry other rest upper first later ih =>
      obtain ⟨n, u⟩ := entry
      obtain ⟨m, v⟩ := other
      obtain ⟨rfl, kept⟩ := first
      exact ih _ _ (forall₂_register kept all)
  exact step [] [] .nil

end FontRegistry

end Rirekisho
