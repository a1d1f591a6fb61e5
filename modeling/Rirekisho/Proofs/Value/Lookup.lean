import Rirekisho.Schema.Checked

namespace Rirekisho

/-- What stands under the last of the keys that are wanted. -/
def lastOf? {κ ν : Type} (wanted : κ → Bool) (entries : List (κ × ν)) : Option ν :=
  (entries.filter (wanted ·.1)).getLast?.map (·.2)

section
variable {κ ν σ : Type} {wanted : κ → Bool}

theorem lastOf?_cons (key : κ) (v : ν) (rest : List (κ × ν)) :
    lastOf? wanted ((key, v) :: rest) = (lastOf? wanted rest).or (if wanted key then some v else none) := by
  unfold lastOf?
  rw [List.filter_cons]
  cases wanted key with
  | false => exact Option.or_none.symm
  | true =>
    rw [if_pos rfl, if_pos rfl, List.getLast?_cons]
    cases (rest.filter (wanted ·.1)).getLast? with
    | none => rfl
    | some entry => rfl

theorem lastOf?_isSome {entries : List (κ × ν)} :
    (lastOf? wanted entries).isSome ↔ ∃ entry ∈ entries, wanted entry.1 = true := by
  rw [lastOf?, Option.isSome_map, List.getLast?_isSome, ← List.length_pos_iff, List.length_filter_pos_iff]

theorem mem_of_lastOf? {entries : List (κ × ν)} {v : ν} (found : lastOf? wanted entries = some v) :
    ∃ key, (key, v) ∈ entries ∧ wanted key = true := by
  obtain ⟨⟨key, _⟩, last, rfl⟩ := Option.map_eq_some_iff.mp found
  obtain ⟨member, chosen⟩ := List.mem_filter.mp (List.mem_of_getLast? last)
  exact ⟨key, member, chosen⟩

/-- Of what is put in one after the other, each in the place of the one before, the last one is left. -/
theorem lastOf?_foldl (put : σ → κ × ν → σ) (get : σ → Option ν)
    (step : ∀ s key v, get (put s (key, v)) = if wanted key then some v else get s) (entries : List (κ × ν)) (s : σ) :
    get (entries.foldl put s) = (lastOf? wanted entries).or (get s) := by
  induction entries generalizing s with
  | nil => rfl
  | cons entry rest ih =>
    obtain ⟨key, v⟩ := entry
    rw [List.foldl_cons, ih, step, lastOf?_cons, Option.or_assoc]
    cases wanted key <;> rfl

end

namespace Value

variable {key v w : Value} {entries added : Entries} {s label : String}

theorem sameKey_text : key.sameKey (.text s) = true ↔ key = .text s := by
  cases key <;> simp [sameKey, number?]

theorem sameKey_text_congr {k : Value} (same : k.sameKey key = true) (s : String) :
    k.sameKey (.text s) = key.sameKey (.text s) := by
  rw [Bool.eq_iff_iff, sameKey_text, sameKey_text]
  constructor
  · rintro rfl
    cases key <;> simp_all [sameKey, number?]
  · rintro rfl
    exact sameKey_text.mp same

theorem lookup?_cons (wanted k : Value) (v : Value) (rest : Entries) :
    lookup? wanted ((k, v) :: rest) = if k.sameKey wanted then some v else lookup? wanted rest := by
  unfold lookup?
  rw [List.find?_cons]
  cases k.sameKey wanted <;> rfl

/-- Whatever does not tell two values apart does not tell which of them stands in a place among entries. -/
theorem map_lookup?_place {γ : Type} {f : Value → γ} {x y : Value} (same : f x = f y) (wanted key : Value)
    (before after : Entries) :
    (lookup? wanted (before ++ (key, x) :: after)).map f =
      (lookup? wanted (before ++ (key, y) :: after)).map f := by
  unfold lookup?
  rw [List.find?_append, List.find?_append, List.find?_cons, List.find?_cons]
  cases before.find? (·.1.sameKey wanted) with
  | some entry => rfl
  | none =>
    cases key.sameKey wanted with
    | true => exact congrArg some same
    | false => rfl

theorem lookup?_insert (s : String) (key v : Value) (entries : Entries) :
    lookup? (.text s) (insert key v entries) =
      if key.sameKey (.text s) then some v else lookup? (.text s) entries := by
  induction entries with
  | nil => rw [insert, lookup?_cons]
  | cons entry rest ih =>
    obtain ⟨k, u⟩ := entry
    rw [insert, lookup?_cons]
    cases same : k.sameKey key with
    | true =>
      rw [if_pos rfl, lookup?_cons, sameKey_text_congr same]
      split <;> rfl
    | false =>
      rw [if_neg (by decide), lookup?_cons, ih]
      by_cases first : k.sameKey (.text s)
      · have other : key.sameKey (.text s) ≠ true := by
          intro second
          rw [sameKey_text.mp first, sameKey_text.mp second, sameKey_text.mpr rfl] at same
          cases same
        rw [if_pos first, if_neg other, if_pos first]
      · rw [if_neg first, if_neg first]

theorem insertAll_append (entries first second : Entries) :
    insertAll entries (first ++ second) = insertAll (insertAll entries first) second := List.foldl_append ..

theorem insertAll_cons (entries : Entries) (key v : Value) (rest : Entries) :
    insertAll entries ((key, v) :: rest) = insertAll (insert key v entries) rest := rfl

theorem lookup?_insertAll_congr {other : Entries} (same : lookup? (.text s) entries = lookup? (.text s) other)
    (added : Entries) : lookup? (.text s) (insertAll entries added) = lookup? (.text s) (insertAll other added) := by
  induction added generalizing entries other with
  | nil => exact same
  | cons entry rest ih =>
    refine ih ?_
    rw [lookup?_insert, lookup?_insert, same]

theorem lookup?_insertAll_absent (absent : ∀ entry ∈ added, entry.1 ≠ .text s) :
    lookup? (.text s) (insertAll entries added) = lookup? (.text s) entries := by
  induction added generalizing entries with
  | nil => rfl
  | cons entry rest ih =>
    obtain ⟨first, others⟩ := List.forall_mem_cons.mp absent
    have other : ¬ entry.1.sameKey (.text s) = true := fun same => first (sameKey_text.mp same)
    rw [insertAll_cons, ih others, lookup?_insert, if_neg other]

/-- A place for the value under a label in entries that are put in one after the other: none of those that
come later has the label. -/
structure Place (label : String) where
  before : Entries
  after : Entries
  last : ∀ entry ∈ after, entry.1 ≠ .text label

namespace Place

variable (place : Place label)

/-- The entries with a value in the place. -/
def fill (v : Value) : Entries := insertAll [] (place.before ++ (.text label, v) :: place.after)

theorem lookup?_fill (v : Value) : lookup? (.text label) (place.fill v) = some v := by
  rw [fill, insertAll_append, insertAll_cons, lookup?_insertAll_absent place.last, lookup?_insert,
    if_pos (sameKey_text.mpr rfl)]

/-- Under other labels nothing depends on the value. -/
theorem lookup?_fill_of_ne (other : s ≠ label) (v w : Value) :
    lookup? (.text s) (place.fill v) = lookup? (.text s) (place.fill w) := by
  have apart : ¬ (text label).sameKey (.text s) = true := fun same =>
    other (Value.text.inj (sameKey_text.mp same)).symm
  rw [fill, fill, insertAll_append, insertAll_append, insertAll_cons, insertAll_cons]
  refine lookup?_insertAll_congr ?_ _
  rw [lookup?_insert, lookup?_insert, if_neg apart, if_neg apart]

end Place

end Value

end Rirekisho
