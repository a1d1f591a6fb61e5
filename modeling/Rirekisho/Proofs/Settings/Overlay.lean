import Rirekisho.Proofs.Value.Lookup
import Rirekisho.Settings.Environment

namespace Rirekisho

namespace Value

variable {key v : Value} {entries : Entries} {s : String} {wanted : Value → Bool}

theorem keys_insert (key v : Value) (entries : Entries) :
    (insert key v entries).map (·.1) =
      if entries.any (·.1.sameKey key) then entries.map (·.1) else entries.map (·.1) ++ [key] := by
  induction entries with
  | nil => rfl
  | cons entry rest ih =>
    obtain ⟨k, w⟩ := entry
    rw [insert, List.any_cons]
    cases same : k.sameKey key with
    | true => rfl
    | false =>
      rw [if_neg Bool.false_ne_true, List.map_cons, ih, Bool.false_or]
      split <;> rfl

theorem mem_keys_insert {k : Value} (member : k ∈ (insert key v entries).map (·.1)) :
    k ∈ entries.map (·.1) ∨ k = key := by
  rw [keys_insert] at member
  split at member
  · exact .inl member
  · exact (List.mem_append.mp member).imp_right List.mem_singleton.mp

theorem keys_subset_insert : entries.map (·.1) ⊆ (insert key v entries).map (·.1) := by
  rw [keys_insert]
  split
  · exact List.Subset.refl _
  · exact List.subset_append_left ..

theorem insert_of_absent (absent : ∀ entry ∈ entries, ¬ entry.1.sameKey key = true) :
    insert key v entries = entries ++ [(key, v)] := by
  induction entries with
  | nil => rfl
  | cons entry rest ih =>
    obtain ⟨own, others⟩ := List.forall_mem_cons.mp absent
    rw [insert, if_neg own, ih others, List.cons_append]

theorem mem_keys_insert_self : text s ∈ (insert (.text s) v entries).map (·.1) := by
  rw [keys_insert]
  split
  next known =>
    obtain ⟨entry, member, same⟩ := List.any_eq_true.mp known
    exact sameKey_text.mp same ▸ List.mem_map.mpr ⟨entry, member, rfl⟩
  next => exact List.mem_append_right _ (List.mem_singleton_self _)

/-- Keys that are the same are wanted alike, if only texts are wanted. -/
theorem wanted_congr (texts : ∀ key, wanted key = true → ∃ s, key = .text s) {k : Value}
    (same : k.sameKey key = true) : wanted k = wanted key := by
  rw [Bool.eq_iff_iff]
  constructor
  · intro chosen
    obtain ⟨s, rfl⟩ := texts k chosen
    have known := (sameKey_text_congr same s).symm.trans (sameKey_text.mpr rfl)
    rwa [sameKey_text.mp known]
  · intro chosen
    obtain ⟨s, rfl⟩ := texts key chosen
    rwa [sameKey_text.mp same]

theorem filter_insert (texts : ∀ key, wanted key = true → ∃ s, key = .text s) (key v : Value) (entries : Entries) :
    (insert key v entries).filter (wanted ·.1) =
      if wanted key then insert key v (entries.filter (wanted ·.1)) else entries.filter (wanted ·.1) := by
  induction entries with
  | nil =>
    rw [insert, List.filter_cons]
    rfl
  | cons entry rest ih =>
    obtain ⟨k, w⟩ := entry
    rw [insert]
    cases same : k.sameKey key with
    | true =>
      rw [if_pos rfl, List.filter_cons, List.filter_cons, wanted_congr texts same]
      cases wanted key with
      | true => rw [if_pos rfl, if_pos rfl, if_pos rfl, insert, if_pos same]
      | false => rfl
    | false =>
      rw [if_neg Bool.false_ne_true, List.filter_cons, List.filter_cons, ih]
      cases wanted key <;> cases wanted k <;> simp [insert, same]

theorem lookup?_filter (chosen : wanted (.text s) = true) (entries : Entries) :
    lookup? (.text s) (entries.filter (wanted ·.1)) = lookup? (.text s) entries := by
  unfold lookup?
  rw [List.find?_filter]
  congr 2
  funext entry
  cases same : entry.1.sameKey (.text s) with
  | true =>
    rw [sameKey_text.mp same, chosen]
    rfl
  | false => simp only [Bool.false_eq_true, and_false, decide_false]

theorem lookup?_eq_none : lookup? (.text s) entries = none ↔ ∀ entry ∈ entries, entry.1 ≠ .text s := by
  rw [lookup?, Option.map_eq_none_iff, List.find?_eq_none]
  exact forall₂_congr fun entry _ => not_congr sameKey_text

theorem mem_of_lookup? (found : lookup? (.text s) entries = some v) : (.text s, v) ∈ entries := by
  obtain ⟨⟨k, w⟩, seen, rfl⟩ := Option.map_eq_some_iff.mp found
  have named : k = .text s := sameKey_text.mp (List.find?_some seen :)
  exact named ▸ List.mem_of_find?_eq_some seen

/-- A value put in under a wanted key is the last one there, or the last one stays as it is. -/
theorem lastOf?_insert (texts : ∀ key, wanted key = true → ∃ s, key = .text s) (chosen : wanted key = true) :
    lastOf? wanted (insert key v entries) = some v ∨
      lastOf? wanted (insert key v entries) = lastOf? wanted entries := by
  induction entries with
  | nil =>
    rw [insert, lastOf?_cons, if_pos chosen]
    exact .inl rfl
  | cons entry rest ih =>
    obtain ⟨k, w⟩ := entry
    rw [insert]
    cases same : k.sameKey key with
    | true =>
      rw [if_pos rfl, lastOf?_cons, lastOf?_cons, wanted_congr texts same, if_pos chosen, if_pos chosen]
      cases lastOf? wanted rest with
      | none => exact .inl rfl
      | some u => exact .inr rfl
    | false =>
      rw [if_neg Bool.false_ne_true, lastOf?_cons, lastOf?_cons]
      rcases ih with last | kept
      · exact .inl (by rw [last]; rfl)
      · exact .inr (by rw [kept])

/-- A value laid over what may stand in its place already: of two mappings one is put over the other. -/
def laidOver (v : Value) (under : Option Value) : Value :=
  match v, under with
  | .map above, some (.map inner) => .map (Entries.overlaid inner above)
  | v, _ => v

theorem laidOver_none (v : Value) : v.laidOver none = v := by cases v <;> rfl

theorem exists_map_laidOver (above : Entries) (under : Option Value) :
    ∃ entries, (Value.map above).laidOver under = .map entries := by
  cases under with
  | none => exact ⟨above, rfl⟩
  | some v =>
    cases v with
    | map inner => exact ⟨Entries.overlaid inner above, rfl⟩
    | _ => exact ⟨above, rfl⟩

theorem of_laidOver_eq_map {under : Option Value} (laid : v.laidOver under = .map entries) :
    (v = .map entries ∧ ∀ inner, under ≠ some (.map inner)) ∨
      ∃ above inner, v = .map above ∧ under = some (.map inner) ∧
      entries = Entries.overlaid inner above := by
  unfold laidOver at laid
  split at laid
  next above inner =>
    cases laid
    exact .inr ⟨above, inner, rfl, rfl, rfl⟩
  next other =>
    subst laid
    exact .inl ⟨rfl, fun inner held => other entries inner rfl held⟩

theorem laidOver_of_simple (simple : ∀ entries, v ≠ .map entries) (under : Option Value) : v.laidOver under = v := by
  cases v with
  | map entries => exact absurd rfl (simple entries)
  | _ => rfl

end Value

namespace Entries

open Value

variable {under upper : Entries} {key v : Value} {s : String} {wanted : Value → Bool}

theorem overlaid_nil (under : Entries) : overlaid under [] = under := by rw [overlaid]

theorem overlaid_cons (under : Entries) (key v : Value) (rest : Entries) :
    overlaid under ((key, v) :: rest) =
      overlaid (Value.insert key (v.laidOver (lookup? key under)) under) rest := by
  cases v with
  | map above =>
    rw [overlaid]
    cases lookup? key under with
    | none => rfl
    | some inner => cases inner <;> rfl
  | _ =>
    refine overlaid.eq_3 _ _ _ _ ?_
    intro inner other
    cases other

/-- No text is the key of two entries. -/
def Clear (entries : Entries) : Prop := (entries.map (·.1)).Pairwise fun k l => ∀ s, k = .text s → l ≠ .text s

theorem Clear.of_cons {entry : Value × Value} {rest : Entries} (clear : Clear (entry :: rest)) :
    (∀ s, entry.1 = .text s → lookup? (.text s) rest = none) ∧ Clear rest := by
  obtain ⟨apart, others⟩ := List.pairwise_cons.mp clear
  refine ⟨fun s named => lookup?_eq_none.mpr fun other member => ?_, others⟩
  exact apart other.1 (List.mem_map_of_mem member) s named

theorem mem_keys_overlaid {k : Value} (member : k ∈ (overlaid under upper).map (·.1)) :
    k ∈ under.map (·.1) ∨ k ∈ upper.map (·.1) := by
  induction upper generalizing under with
  | nil =>
    rw [overlaid_nil] at member
    exact .inl member
  | cons entry rest ih =>
    obtain ⟨key, v⟩ := entry
    rw [overlaid_cons] at member
    rcases ih member with before | later
    · rcases mem_keys_insert before with known | rfl
      · exact .inl known
      · exact .inr (List.mem_cons_self ..)
    · exact .inr (List.mem_cons_of_mem _ later)

/-- No key counts as the one of a later entry. -/
def Distinct (entries : Entries) : Prop := (entries.map (·.1)).Pairwise fun k l => ¬ k.sameKey l = true

theorem Distinct.insert (distinct : Distinct under) (key v : Value) : Distinct (Value.insert key v under) := by
  unfold Distinct
  rw [keys_insert]
  split
  next => exact distinct
  next fresh =>
    refine List.pairwise_append.mpr ⟨distinct, List.pairwise_singleton .., ?_⟩
    intro k member l single same
    obtain ⟨entry, found, rfl⟩ := List.mem_map.mp member
    rw [List.mem_singleton.mp single] at same
    exact fresh (List.any_eq_true.mpr ⟨entry, found, same⟩)

theorem Distinct.clear (distinct : Distinct upper) : Clear upper := by
  refine List.Pairwise.imp (fun apart s named same => apart ?_) distinct
  rw [named, same]
  exact sameKey_text.mpr rfl

/-- Laid over nothing, entries with different keys are what they are. -/
theorem overlaid_empty (distinct : Distinct upper) : overlaid [] upper = upper := by
  suffices goes : ∀ before : Entries, Distinct (before ++ upper) → overlaid before upper = before ++ upper from
    goes [] distinct
  clear distinct
  -- Each entry comes to stand after those that are there already, and has the key of none of them.
  induction upper with
  | nil => exact fun before _ => (overlaid_nil before).trans (List.append_nil before).symm
  | cons entry rest ih =>
    intro before distinct
    obtain ⟨key, v⟩ := entry
    have absent : ∀ entry ∈ before, ¬ entry.1.sameKey key = true := by
      intro entry member
      unfold Distinct at distinct
      rw [List.map_append, List.pairwise_append] at distinct
      exact distinct.2.2 entry.1 (List.mem_map_of_mem member) _ (List.mem_cons_self ..)
    have free : lookup? key before = none := Option.map_eq_none_iff.mpr (List.find?_eq_none.mpr absent)
    rw [overlaid_cons, free, laidOver_none, insert_of_absent absent, ih]
    · exact List.append_assoc ..
    · rwa [List.append_assoc]

theorem lookup?_overlaid (clear : Clear upper) (under : Entries) (s : String) :
    lookup? (.text s) (overlaid under upper) =
      ((lookup? (.text s) upper).map (·.laidOver (lookup? (.text s) under))).or (lookup? (.text s) under) := by
  induction upper generalizing under with
  | nil =>
    rw [overlaid_nil]
    rfl
  | cons entry rest ih =>
    obtain ⟨key, v⟩ := entry
    obtain ⟨apart, others⟩ := clear.of_cons
    rw [overlaid_cons, ih others, lookup?_insert, lookup?_cons]
    split
    next same =>
      cases sameKey_text.mp same
      rw [apart s rfl]
      rfl
    next => rfl

theorem filter_overlaid (texts : ∀ key, wanted key = true → ∃ s, key = .text s) (under upper : Entries) :
    (overlaid under upper).filter (wanted ·.1) =
      overlaid (under.filter (wanted ·.1)) (upper.filter (wanted ·.1)) := by
  induction upper generalizing under with
  | nil => rw [overlaid_nil, List.filter_nil, overlaid_nil]
  | cons entry rest ih =>
    obtain ⟨key, v⟩ := entry
    rw [overlaid_cons, ih, filter_insert texts, List.filter_cons]
    cases chosen : wanted key with
    | false => rfl
    | true =>
      obtain ⟨s, rfl⟩ := texts key chosen
      rw [if_pos rfl, if_pos rfl, overlaid_cons, lookup?_filter chosen]

theorem filter_of_clear (clear : Clear upper) (chosen : wanted (.text s) = true)
    (only : ∀ entry ∈ upper, wanted entry.1 = true → entry.1 = .text s) :
    upper.filter (wanted ·.1) = ((lookup? (.text s) upper).map (Value.text s, ·)).toList := by
  induction upper with
  | nil => rfl
  | cons entry rest ih =>
    obtain ⟨key, v⟩ := entry
    obtain ⟨apart, others⟩ := clear.of_cons
    obtain ⟨own, later⟩ := List.forall_mem_cons.mp only
    have remaining := ih others later
    rw [List.filter_cons, lookup?_cons]
    cases same : key.sameKey (.text s) with
    | true =>
      cases sameKey_text.mp same
      rw [if_pos chosen, remaining, apart s rfl]
      rfl
    | false =>
      have unwanted : ¬ wanted key = true := by
        intro named
        rw [show key = .text s from own named, sameKey_text.mpr rfl] at same
        cases same
      rw [if_neg unwanted, remaining]
      rfl

/-- Where only one key of what is laid over is wanted, the last wanted one is found as if nothing else were laid
over. -/
theorem lastOf?_overlaid (texts : ∀ key, wanted key = true → ∃ s, key = .text s) (clear : Clear upper)
    (chosen : wanted (.text s) = true) (only : ∀ entry ∈ upper, wanted entry.1 = true → entry.1 = .text s)
    (under : Entries) :
    lastOf? wanted (overlaid under upper) =
      match lookup? (.text s) upper with
      | some v => lastOf? wanted (Value.insert (.text s) (v.laidOver (lookup? (.text s) under)) under)
      | none => lastOf? wanted under := by
  unfold lastOf?
  -- Laying over goes with choosing the wanted entries, and of those above there is one at most.
  rw [filter_overlaid texts, filter_of_clear clear chosen only]
  cases lookup? (.text s) upper with
  | none => rw [Option.map_none, Option.toList_none, overlaid_nil]
  | some v =>
    rw [Option.map_some, Option.toList_some, overlaid_cons, overlaid_nil, lookup?_filter chosen]
    dsimp only
    rw [filter_insert texts, if_pos chosen]

end Entries

end Rirekisho
