import Rirekisho.Proofs.Font
import Rirekisho.Proofs.Settings.Field
import Rirekisho.Proofs.Settings.Overlay
import Rirekisho.Proofs.Text.Case

namespace Rirekisho

open Value

namespace SettingsField

/-- The name of the variable of a field, in small letters. -/
def ownName (field : SettingsField) : String := Environment.variableOf field.area ++ "__" ++ field.name

/-- A key is the name of a field, in capitals or small letters. -/
def spells (field : SettingsField) : Value → Bool
  | .text s => String.ofList (Text.lower s.toList) == field.name
  | _ => false

end SettingsField

namespace Environment

/-- A name in small letters. -/
def small (name : String) : String := String.ofList (Text.lower name.toList)

/-- What stands under a name in the environment, in capitals or small letters: of several variables the last one
counts. -/
def read? (env : Environment) (name : String) : Option String := lastOf? (small · == name) env

variable {env : Environment} {area : Section} {field : SettingsField} {name raw : String} {keys : List String}

theorem set_eq_register (name value : String) (env : Environment) :
    env.set name value = FontRegistry.register name value env := by
  induction env with
  | nil => rfl
  | cons entry rest ih => rw [set, FontRegistry.register, ih]

/-- An environment in small letters has each variable once, like faces that are registered. -/
theorem lowered_eq_registerAll (env : Environment) :
    env.lowered = FontRegistry.registerAll (env.map fun entry => (small entry.1, entry.2)) := by
  unfold lowered FontRegistry.registerAll
  rw [List.foldl_map]
  congr 1
  funext done entry
  exact set_eq_register ..

theorem lastOf?_map_small (env : Environment) (name : String) :
    lastOf? (· == name) (env.map fun entry => (small entry.1, entry.2)) = env.read? name := by
  unfold read?
  induction env with
  | nil => rfl
  | cons entry rest ih => rw [List.map_cons, lastOf?_cons, lastOf?_cons, ih]

theorem find?_lowered (env : Environment) (name : String) :
    (env.lowered.find? (·.1 == name)).map (·.2) = env.read? name := by
  rw [lowered_eq_registerAll, FontRegistry.find?_registerAll, lastOf?_map_small]

theorem lastOf?_lowered (env : Environment) (name : String) : lastOf? (· == name) env.lowered = env.read? name := by
  rw [lowered_eq_registerAll, FontRegistry.lastOf?_registerAll, lastOf?_map_small]

theorem exists_of_mem_lowered {entry : String × String} (member : entry ∈ env.lowered) :
    ∃ other ∈ env, small other.1 = entry.1 ∧ other.2 = entry.2 := by
  rw [lowered_eq_registerAll] at member
  obtain ⟨other, found, rfl⟩ := List.mem_map.mp (FontRegistry.mem_of_mem_registerAll member)
  exact ⟨other, found, rfl, rfl⟩

theorem exists_mem_lowered {entry : String × String} (member : entry ∈ env) :
    ∃ other ∈ env.lowered, other.1 = small entry.1 := by
  have read : (env.read? (small entry.1)).isSome := lastOf?_isSome.mpr ⟨entry, member, beq_self_eq_true _⟩
  rw [← find?_lowered, Option.isSome_map, List.find?_isSome] at read
  exact read.imp fun _ found => found.imp_right beq_iff_eq.mp

theorem splitName_ne_nil (cs : List Char) : splitName cs ≠ [] := by
  fun_induction splitName cs <;> simp_all

theorem splitName_single {cs part : List Char} (single : splitName cs = [part]) : cs = part := by
  fun_induction splitName cs generalizing part with
  | case1 => exact (List.cons.inj single).1
  | case2 rest ih => exact absurd (List.cons.inj single).2 (splitName_ne_nil rest)
  | case3 c rest _ none ih => exact absurd none (splitName_ne_nil rest)
  | case4 c rest _ part more split ih =>
    obtain ⟨rfl, rfl⟩ := List.cons.inj single
    exact congrArg (c :: ·) (ih split)

theorem subset_of_mem_splitName {cs part : List Char} (member : part ∈ splitName cs) : part ⊆ cs := by
  fun_induction splitName cs generalizing part with
  | case1 =>
    rw [List.mem_singleton.mp member]
    exact List.Subset.refl _
  | case2 rest ih =>
    rcases List.mem_cons.mp member with rfl | later
    · exact List.nil_subset _
    · exact fun c within => List.mem_cons_of_mem _ (List.mem_cons_of_mem _ (ih later within))
  | case3 c rest _ none ih =>
    rw [List.mem_singleton.mp member]
    exact List.cons_subset_cons c (List.nil_subset _)
  | case4 c rest _ part more split ih =>
    rw [split] at ih
    rcases List.mem_cons.mp member with rfl | later
    · exact List.cons_subset_cons c (ih (List.mem_cons_self ..))
    · exact List.Subset.trans (ih (List.mem_cons_of_mem _ later)) (List.subset_cons_self ..)

theorem keysBelow?_eq_some : keysBelow? area name = some keys ↔
    ∃ tail, name.toList = (variableOf area ++ "__").toList ++ tail ∧ (splitName tail).map String.ofList = keys := by
  unfold keysBelow?
  dsimp only
  split
  next front =>
    obtain ⟨tail, same⟩ := List.isPrefixOf_iff_prefix.mp front
    rw [← same, List.drop_left, Option.some_inj]
    constructor
    · exact fun split => ⟨tail, rfl, split⟩
    · rintro ⟨other, parted, split⟩
      rwa [List.append_cancel_left parted]
  next other =>
    constructor
    · rintro ⟨⟩
    · rintro ⟨tail, same, _⟩
      exact absurd (List.isPrefixOf_iff_prefix.mpr ⟨tail, same.symm⟩) other

theorem splitName_field (field : SettingsField) : splitName field.name.toList = [field.name.toList] := by
  cases field <;> decide

/-- The variable of a field is the one whose name leads to it. -/
theorem keysBelow?_own : keysBelow? field.area name = some [field.name] ↔ name = field.ownName := by
  have parted : field.ownName.toList = (variableOf field.area ++ "__").toList ++ field.name.toList :=
    String.toList_append
  rw [keysBelow?_eq_some, ← String.toList_inj, parted]
  constructor
  · rintro ⟨tail, same, split⟩
    obtain ⟨part, single, text⟩ := List.map_eq_singleton_iff.mp split
    rw [same, ← text, String.toList_ofList, splitName_single single]
  · intro same
    refine ⟨field.name.toList, same, ?_⟩
    rw [splitName_field, List.map_singleton, String.ofList_toList]

theorem small_field (field : SettingsField) : Text.lower field.name.toList = field.name.toList := by
  cases field <;> decide +kernel

theorem plain_field (field : SettingsField) : ∀ d ∈ field.name.toList, ¬ Text.Strange d := by
  have all : field.name.toList.all (fun d => d.toNat < 0x80 ∧ d ≠ 'k') = true := by cases field <;> decide +kernel
  intro d member strange
  obtain ⟨ascii, other⟩ := of_decide_eq_true (List.all_eq_true.mp all d member)
  exact strange.elim (Nat.not_le.mpr ascii) other

theorem spells_own (field : SettingsField) : field.spells (.text field.name) = true := by
  rw [SettingsField.spells, small_field, String.ofList_toList]
  exact beq_self_eq_true _

theorem exists_text_of_spells {key : Value} (spelled : field.spells key = true) : ∃ s, key = .text s := by
  cases key with
  | text s => exact ⟨s, rfl⟩
  | _ => cases spelled

/-- The first part of a name in small letters is spelled like a field only if it is the name of the field. -/
theorem eq_of_spells_part {first : String} {rest : List String}
    (leads : keysBelow? area (small name) = some (first :: rest)) (spelled : field.spells (.text first) = true) :
    first = field.name := by
  obtain ⟨tail, same, split⟩ := keysBelow?_eq_some.mp leads
  obtain ⟨part, more, parted, rfl, _⟩ := List.map_eq_cons_iff.mp split
  have within : part ⊆ Text.lower name.toList := by
    have front : part ⊆ (small name).toList := same ▸
      List.Subset.trans (subset_of_mem_splitName (parted ▸ List.mem_cons_self ..)) (List.subset_append_right ..)
    rwa [small, String.toList_ofList] at front
  have letters : Text.lower part = field.name.toList := by
    have word := beq_iff_eq.mp spelled
    rw [String.toList_ofList] at word
    rw [← word, String.toList_ofList]
  have same := Text.eq_of_lower_eq (fun c member => Text.isUpper_lower c (within member)) (plain_field field) letters
  rw [same, String.ofList_toList]

/-- A value, unless it is a mapping. -/
def simple? : Option Value → Option Value
  | some (.map _) => none
  | value => value

theorem simple?_eq_some {value : Option Value} {v : Value} (same : simple? value = some v) : value = some v := by
  unfold simple? at same
  split at same
  · cases same
  · exact same

theorem exists_map_of_simple? {v : Value} (same : simple? (some v) = none) : ∃ entries, v = .map entries := by
  cases v with
  | map entries => exact ⟨entries, rfl⟩
  | _ => cases same

section
variable {value : Value} {first : String} {rest : List String} {entries : Entries}

/-- What becomes of entries when a value is put where keys lead: it stands under the only key, or it is put into the
mapping under the first one, or something else stands there already. -/
inductive Put (value : Value) (first : String) (rest : List String) (entries : Entries) : Entries → Prop
  | here (only : rest = []) : Put value first rest entries (Value.insert (.text first) value entries)
  | new (more : rest ≠ []) (free : lookup? (.text first) entries = none) :
      Put value first rest entries (Value.insert (.text first) (.map (putAt value rest [])) entries)
  | inside (more : rest ≠ []) {inner : Entries} (held : lookup? (.text first) entries = some (.map inner)) :
      Put value first rest entries (Value.insert (.text first) (.map (putAt value rest inner)) entries)
  | stays (more : rest ≠ []) {v : Value} (held : lookup? (.text first) entries = some v) :
      Put value first rest entries entries

theorem putAt_put (value : Value) (first : String) (rest : List String) (entries : Entries) :
    Put value first rest entries (putAt value (first :: rest) entries) := by
  cases rest with
  | nil => exact .here rfl
  | cons next rest =>
    have more : next :: rest ≠ [] := List.cons_ne_nil _ _
    rw [putAt]
    · split
      next free => exact .new more free
      next held => exact .inside more held
      next _ held => exact .stays more held
    · exact more

theorem Put.mem_keys {after : Entries} (put : Put value first rest entries after) {key : Value}
    (member : key ∈ after.map (·.1)) : key ∈ entries.map (·.1) ∨ key = .text first := by
  cases put with
  | stays => exact .inl member
  | _ => exact mem_keys_insert member

theorem Put.subset {after : Entries} (put : Put value first rest entries after) :
    entries.map (·.1) ⊆ after.map (·.1) := by
  cases put with
  | stays => exact List.Subset.refl _
  | _ => exact keys_subset_insert

theorem Put.self_mem {after : Entries} (put : Put value first rest entries after) :
    Value.text first ∈ after.map (·.1) := by
  cases put with
  | stays _ held => exact List.mem_map_of_mem (f := (·.1)) (mem_of_lookup? held)
  | _ => exact mem_keys_insert_self

theorem Put.distinct {after : Entries} (put : Put value first rest entries after)
    (distinct : Entries.Distinct entries) : Entries.Distinct after := by
  cases put with
  | stays => exact distinct
  | _ => exact distinct.insert ..

theorem Put.lookup?_of_ne {after : Entries} (put : Put value first rest entries after) (apart : first ≠ name) :
    lookup? (.text name) after = lookup? (.text name) entries := by
  have other : ¬ (Value.text first).sameKey (.text name) = true := fun same =>
    apart (Value.text.inj (sameKey_text.mp same))
  cases put with
  | stays => rfl
  | _ => rw [lookup?_insert, if_neg other]

/-- Only what is put under a name itself is a value for it; what is put below comes to a mapping. -/
theorem Put.simple?_self {after : Entries} (put : Put value first rest entries after) :
    simple? (lookup? (.text first) after) =
      if rest = [] then simple? (some value) else simple? (lookup? (.text first) entries) := by
  cases put with
  | here only => rw [lookup?_insert, if_pos (sameKey_text.mpr rfl), if_pos only]
  | new more free =>
    rw [lookup?_insert, if_pos (sameKey_text.mpr rfl), if_neg more, free]
    rfl
  | inside more held =>
    rw [lookup?_insert, if_pos (sameKey_text.mpr rfl), if_neg more, held]
    rfl
  | stays more => rw [if_neg more]

/-- What holds of some entries and is kept whenever a part is put in holds when all parts have been. -/
theorem parts_induct (good : Entries → Prop)
    (step : ∀ entry ∈ env, ∀ first rest value entries after, keysBelow? area entry.1 = some (first :: rest) →
      valueOf area (first :: rest) entry.2 = .ok value → Put value first rest entries after →
      good entries → good after)
    {before after : Entries} (made : parts area env before = .ok after) (start : good before) : good after := by
  induction env generalizing before with
  | nil =>
    cases made
    exact start
  | cons entry rest ih =>
    obtain ⟨own, others⟩ := List.forall_mem_cons.mp step
    rw [parts] at made
    split at made
    next => exact ih others made start
    next keys leads =>
      split at made
      next => cases made
      next value read =>
        cases keys with
        | nil => exact ih others made start
        | cons first more =>
          exact ih others made (own first more value before _ leads read (putAt_put ..) start)

end

section
variable {entries after made : Entries}

theorem subset_keys_parts (run : parts area env entries = .ok after) : entries.map (·.1) ⊆ after.map (·.1) :=
  parts_induct (fun later => entries.map (·.1) ⊆ later.map (·.1))
    (fun _ _ _ _ _ _ _ _ _ put kept => List.Subset.trans kept put.subset) run (List.Subset.refl _)

theorem distinct_parts (run : parts area env [] = .ok made) : Entries.Distinct made :=
  parts_induct _ (fun _ _ _ _ _ _ _ _ _ put distinct => put.distinct distinct) run List.Pairwise.nil

/-- Every key that parts make is the first one that the name of a variable leads to. -/
theorem exists_of_mem_keys_parts (run : parts area env [] = .ok made) : ∀ key ∈ made.map (·.1),
    ∃ entry ∈ env, ∃ first rest, keysBelow? area entry.1 = some (first :: rest) ∧ key = .text first := by
  refine parts_induct (fun entries => ∀ key ∈ entries.map (·.1), ∃ entry ∈ env, ∃ first rest,
    keysBelow? area entry.1 = some (first :: rest) ∧ key = .text first) ?_ run (List.forall_mem_nil _)
  intro entry member first rest value before after leads _ put known key found
  rcases put.mem_keys found with old | new
  · exact known key old
  · exact ⟨entry, member, first, rest, leads, new⟩

theorem mem_keys_parts (run : parts area env entries = .ok after) {entry : String × String} (member : entry ∈ env)
    {first : String} {rest : List String} (leads : keysBelow? area entry.1 = some (first :: rest)) :
    Value.text first ∈ after.map (·.1) := by
  induction env generalizing entries with
  | nil => cases member
  | cons head others ih =>
    rw [parts] at run
    split at run
    next none =>
      rcases List.mem_cons.mp member with rfl | later
      · rw [none] at leads
        cases leads
      · exact ih run later
    next keys some =>
      split at run
      next => cases run
      next value _ =>
        rcases List.mem_cons.mp member with rfl | later
        · rw [some] at leads
          cases leads
          exact subset_keys_parts run (putAt_put ..).self_mem
        · exact ih run later

theorem valueOf_own (scalar : field ≠ .faces) (raw : String) :
    valueOf field.area [field.name] raw = .ok (.text raw) := by
  cases field with
  | faces => exact absurd rfl scalar
  | _ => rfl

/-- What parts make for a field, unless it is a mapping, is the text of the last variable of its own. -/
theorem parts_simple? (scalar : field ≠ .faces) (run : parts field.area env entries = .ok after) :
    simple? (lookup? (.text field.name) after) =
      ((lastOf? (· == field.ownName) env).map Value.text).or (simple? (lookup? (.text field.name) entries)) := by
  induction env generalizing entries with
  | nil =>
    cases run
    rfl
  | cons head rest ih =>
    obtain ⟨name, raw⟩ := head
    rw [lastOf?_cons]
    rw [parts] at run
    have other {keys : Option (List String)} (leads : keysBelow? field.area name = keys)
        (apart : keys ≠ some [field.name]) : ¬ (name == field.ownName) = true := by
      intro same
      exact apart (leads.symm.trans (keysBelow?_own.mpr (beq_iff_eq.mp same)))
    split at run
    next none =>
      rw [if_neg (other none (Option.some_ne_none _).symm), Option.or_none]
      exact ih run
    next keys leads =>
      split at run
      next => cases run
      next value read =>
        by_cases own : keys = [field.name]
        · subst own
          cases (valueOf_own scalar raw).symm.trans read
          have same : (name == field.ownName) = true := beq_iff_eq.mpr (keysBelow?_own.mp leads)
          rw [if_pos same, ih run, (putAt_put ..).simple?_self, if_pos rfl]
          cases lastOf? (· == field.ownName) rest <;> rfl
        -- Another variable goes elsewhere or into a mapping under the field, which is no value that counts here.
        · rw [if_neg (other leads fun same => own (Option.some.inj same)), Option.or_none, ih run]
          congr 1
          cases keys with
          | nil => rfl
          | cons first more =>
            by_cases named : first = field.name
            · subst named
              rw [(putAt_put ..).simple?_self, if_neg fun only => own (congrArg (field.name :: ·) only)]
            · rw [(putAt_put ..).lookup?_of_ne named]

end

end Environment

end Rirekisho
