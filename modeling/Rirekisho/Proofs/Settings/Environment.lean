import Rirekisho.Proofs.Settings.Parts

namespace Rirekisho

open Value

theorem Section.name_injective {first second : Section} (same : first.name = second.name) : first = second := by
  cases first <;> cases second <;> first | rfl | exact absurd same (by decide)

namespace Entries

variable {entries : Entries} {areas : List Section} {area : Section}

/-- Every key is the name of one of the sections. -/
def Within (entries : Entries) (areas : List Section) : Prop :=
  ∀ key ∈ entries.map (·.1), ∃ area ∈ areas, key = .text area.name

theorem Within.mono (within : entries.Within areas) (head : Section) : entries.Within (head :: areas) :=
  fun key member => (within key member).imp fun _ found => found.imp_left (List.mem_cons_of_mem _)

theorem Within.cons (within : entries.Within areas) (head : Section) (v : Value) :
    Within ((.text head.name, v) :: entries) (head :: areas) :=
  List.forall_mem_cons.mpr ⟨⟨head, List.mem_cons_self .., rfl⟩, within.mono head⟩

theorem Within.lookup?_of_not_mem (within : entries.Within areas) (absent : area ∉ areas) :
    lookup? (.text area.name) entries = none := by
  refine lookup?_eq_none.mpr fun entry member named => ?_
  obtain ⟨other, among, same⟩ := within entry.1 (List.mem_map_of_mem member)
  exact absent (Section.name_injective (Value.text.inj (named.symm.trans same)) ▸ among)

theorem lookup?_section_cons (head area : Section) (v : Value) (rest : Entries) :
    lookup? (.text area.name) ((.text head.name, v) :: rest) =
      if head = area then some v else lookup? (.text area.name) rest := by
  rw [lookup?_cons]
  by_cases same : head = area
  · subst same
    rw [if_pos (sameKey_text.mpr rfl), if_pos rfl]
  · have other : ¬ (Value.text head.name).sameKey (.text area.name) = true := fun named =>
      same (Section.name_injective (Value.text.inj (sameKey_text.mp named)))
    rw [if_neg other, if_neg same]

end Entries

namespace Environment

/-- The members of the variable of a section, in JSON. There are none without the variable; where it holds something
else than members, such as null, they are undefined. -/
def members? (env : Environment) (area : Section) : Option Entries :=
  match env.read? (variableOf area) with
  | none => some []
  | some raw =>
    match Json.read raw with
    | .ok (.map members) => some members
    | _ => none

/-- The value that an environment has for a field that is no mapping: the last one under its name among the members
of the section, where the text of its own variable stands under the very name. -/
def value? (env : Environment) (field : SettingsField) : Option Value := do
  let members ← env.members? field.area
  lastOf? field.spells <|
    match env.read? field.ownName with
    | some raw => Value.insert (.text field.name) (.text raw) members
    | none => members

/-- The environment names a field: there is a member for it in its section, or a variable that its name leads to. -/
inductive Names (env : Environment) (field : SettingsField) : Prop
  | member {members : Entries} (held : env.members? field.area = some members) {entry : Value × Value}
      (found : entry ∈ members) (spelled : field.spells entry.1 = true) : Names env field
  | below {members : Entries} (held : env.members? field.area = some members) {entry : String × String}
      (found : entry ∈ env) {rest : List String}
      (leads : keysBelow? field.area (small entry.1) = some (field.name :: rest)) : Names env field

/-- A mapping has something for a face. -/
def HasFace (faces : Entries) (name : String) : Prop := ∃ key ∈ faces.map (·.1), Schema.text key = .valid name

/-- The environment names a face: it is among the faces in the JSON of their section or in the JSON of all faces, or
there is a variable that its name leads to. -/
inductive NamesFace (env : Environment) (name : String) : Prop
  | member {members : Entries} (held : env.members? .fonts = some members) {key : Value} {faces : Entries}
      (found : (key, .map faces) ∈ members) (spelled : SettingsField.faces.spells key = true)
      (has : HasFace faces name) : NamesFace env name
  | own {members : Entries} (held : env.members? .fonts = some members) {entry : String × String}
      (found : entry ∈ env) (leads : keysBelow? .fonts (small entry.1) = some ["faces"]) {faces : Entries}
      (holds : Json.read entry.2 = .ok (.map faces)) (has : HasFace faces name) : NamesFace env name
  | below {members : Entries} (held : env.members? .fonts = some members) {entry : String × String}
      (found : entry ∈ env) {rest : List String}
      (leads : keysBelow? .fonts (small entry.1) = some ("faces" :: name :: rest)) : NamesFace env name

variable {env : Environment} {area : Section} {field : SettingsField} {name : String} {keys : List String}

section
variable {members made d entries : Entries} {value : Option Value}

theorem lower_of_mem_fields (area : Section) : ∀ name ∈ area.fields, Text.lower name.toList = name.toList := by
  intro name member
  rw [SettingsField.fields_eq] at member
  obtain ⟨field, _, rfl⟩ := List.mem_map.mp member
  exact small_field field

/-- A text becomes the name of a field if it is spelled like it, and stays what it is otherwise. -/
theorem spelling_iff (field : SettingsField) (s : String) :
    (field.area.fields.find? fun name => Text.lower name.toList == Text.lower s.toList).getD s = field.name ↔
      field.spells (.text s) = true := by
  have spelled : field.spells (.text s) = true ↔ Text.lower s.toList = field.name.toList := by
    rw [SettingsField.spells, beq_iff_eq, ← String.toList_inj, String.toList_ofList]
  rw [spelled]
  cases found : field.area.fields.find? fun name => Text.lower name.toList == Text.lower s.toList with
  | none =>
    have absent := List.find?_eq_none.mp found field.name field.name_mem_fields
    rw [small_field, beq_iff_eq] at absent
    refine iff_of_false ?_ fun same => absent same.symm
    rintro rfl
    exact absent (small_field field).symm
  | some name =>
    have alike : Text.lower name.toList = Text.lower s.toList := beq_iff_eq.mp (List.find?_some found :)
    rw [lower_of_mem_fields _ _ (List.mem_of_find?_eq_some found)] at alike
    rw [← alike, String.toList_inj, Option.getD_some]

theorem lookup?_spelled (field : SettingsField) (entries : Entries) :
    lookup? (.text field.name) (spelled field.area entries) = lastOf? field.spells entries := by
  refine (lastOf?_foldl _ (lookup? (.text field.name)) (fun done key v => ?_) entries []).trans Option.or_none
  dsimp only
  rw [lookup?_insert]
  congr 1
  cases key with
  | text s => exact propext (sameKey_text.trans (Value.text.injEq .. ▸ spelling_iff field s))
  | _ => rfl

theorem distinct_spelled (area : Section) (entries : Entries) : Entries.Distinct (spelled area entries) := by
  suffices kept : ∀ done, Entries.Distinct done → Entries.Distinct (entries.foldl _ done) from
    kept [] List.Pairwise.nil
  induction entries with
  | nil => exact fun _ distinct => distinct
  | cons entry rest ih => exact fun done distinct => ih _ (distinct.insert ..)

/-- What an environment tells of a section: nothing if the variable of the section holds something else than members,
and else what the members and the parts of the section come to, with the names of the fields. -/
inductive Tells (env : Environment) (area : Section) : Entries → Prop
  | nothing (held : env.members? area = none) : Tells env area []
  | mapping {members made : Entries} (held : env.members? area = some members)
      (run : parts area env.lowered [] = .ok made) : Tells env area (spelled area (Entries.overlaid members made))

theorem Tells.distinct (tells : env.Tells area d) : Entries.Distinct d := by
  cases tells with
  | nothing => exact List.Pairwise.nil
  | mapping => exact distinct_spelled ..

theorem tells_of_sectionValue (said : env.lowered.sectionValue area = .ok value)
    (mapping : value.getD (.map []) = .map d) : env.Tells area d := by
  have read := find?_lowered env (variableOf area)
  unfold sectionValue at said
  cases found : env.lowered.find? (·.1 == variableOf area) with
  | none =>
    rw [found] at said read
    have held : env.members? area = some [] := by
      rw [members?, ← read]
      rfl
    obtain ⟨made, run, said⟩ := result_bind_eq_ok.mp said
    have same : d = spelled area made := by
      cases made with
      | nil =>
        cases said
        exact (Value.map.inj mapping).symm
      | cons entry rest =>
        cases said
        exact (Value.map.inj mapping).symm
    rw [same, ← Entries.overlaid_empty (distinct_parts run)]
    exact .mapping held run
  | some entry =>
    rw [found] at said read
    obtain ⟨top, held, said⟩ := result_bind_eq_ok.mp said
    have json : Json.read entry.2 = .ok top := by
      unfold jsonValue at held
      split at held
      next read =>
        cases held
        exact read
      next => cases held
      next => cases held
    have members (here : Option Entries) (same : (match Json.read entry.2 with
        | .ok (.map members) => some members
        | _ => none) = here) : env.members? area = here := by
      rw [members?, ← read]
      exact same
    cases top with
    | null =>
      cases said
      cases mapping
      exact .nothing (members none (by rw [json]))
    | map entries =>
      obtain ⟨made, run, said⟩ := result_bind_eq_ok.mp said
      cases said
      cases mapping
      exact .mapping (members entries (by rw [json])) run
    | _ =>
      cases said
      cases mapping

theorem exists_leads_of_mem_keys_parts (run : parts area env.lowered [] = .ok made) {key : Value}
    (member : key ∈ made.map (·.1)) : ∃ entry ∈ env, ∃ first rest,
      keysBelow? area (small entry.1) = some (first :: rest) ∧ key = .text first := by
  obtain ⟨low, within, first, rest, leads, same⟩ := exists_of_mem_keys_parts run key member
  obtain ⟨entry, found, named, _⟩ := exists_of_mem_lowered within
  exact ⟨entry, found, first, rest, named ▸ leads, same⟩

/-- Of the parts of a section only the one under the name of a field is spelled like it. -/
theorem eq_text_of_spells_part (run : parts field.area env.lowered [] = .ok made) :
    ∀ entry ∈ made, field.spells entry.1 = true → entry.1 = .text field.name := by
  intro entry member spelled
  obtain ⟨_, _, first, _, leads, same⟩ := exists_leads_of_mem_keys_parts run (List.mem_map_of_mem member)
  rw [same] at spelled ⊢
  rw [eq_of_spells_part leads spelled]

theorem Tells.lookup?_of_unnamed (tells : env.Tells field.area d) (unnamed : ¬ env.Names field) :
    lookup? (.text field.name) d = none := by
  cases tells with
  | nothing => rfl
  | @mapping members made held run =>
    rw [lookup?_spelled, ← Option.not_isSome_iff_eq_none, lastOf?_isSome]
    rintro ⟨entry, member, spelled⟩
    rcases Entries.mem_keys_overlaid (List.mem_map_of_mem member) with own | part
    · obtain ⟨other, found, same⟩ := List.mem_map.mp own
      exact unnamed (.member held found (same ▸ spelled))
    · obtain ⟨other, found, first, rest, leads, same⟩ := exists_leads_of_mem_keys_parts run part
      have named := eq_of_spells_part leads (same ▸ spelled)
      exact unnamed (.below held found (named ▸ leads))

theorem Tells.lookup?_mapping (members : Entries)
    (run : parts field.area env.lowered [] = .ok made) :
    lookup? (.text field.name) (spelled field.area (Entries.overlaid members made)) =
      match lookup? (.text field.name) made with
      | some v => lastOf? field.spells
          (Value.insert (.text field.name) (v.laidOver (lookup? (.text field.name) members)) members)
      | none => lastOf? field.spells members := by
  rw [lookup?_spelled]
  exact Entries.lastOf?_overlaid (fun _ => exists_text_of_spells) (distinct_parts run).clear
    (spells_own field) (eq_text_of_spells_part run) members

/-- A named field has a value in what the environment tells, the one that the environment has for it if that is no
mapping. -/
theorem Tells.lookup?_of_named (tells : env.Tells field.area d) (scalar : field ≠ .faces) (named : env.Names field) :
    ∃ v, lookup? (.text field.name) d = some v ∧ ((∀ entries, v ≠ .map entries) → env.value? field = some v) := by
  cases tells with
  | nothing none =>
    cases named with
    | member held => cases none.symm.trans held
    | below held => cases none.symm.trans held
  | @mapping members made held run =>
    have own : simple? (lookup? (.text field.name) made) = (env.read? field.ownName).map Value.text := by
      rw [parts_simple? scalar run, lastOf?_lowered]
      exact Option.or_none
    have value : env.value? field = lastOf? field.spells (match env.read? field.ownName with
        | some raw => Value.insert (.text field.name) (.text raw) members
        | none => members) := by rw [value?, held]; rfl
    rw [Tells.lookup?_mapping members run]
    cases put : lookup? (.text field.name) made with
    | none =>
      rw [put] at own
      rw [Option.map_eq_none_iff.mp own.symm] at value
      have found : (lastOf? field.spells members).isSome := by
        cases named with
        | member again found spelled =>
          cases held.symm.trans again
          exact lastOf?_isSome.mpr ⟨_, found, spelled⟩
        | below _ found leads =>
          obtain ⟨low, within, same⟩ := exists_mem_lowered found
          obtain ⟨part, known, spot⟩ := List.mem_map.mp (mem_keys_parts run within (same ▸ leads))
          exact absurd spot (lookup?_eq_none.mp put part known)
      obtain ⟨v, last⟩ := Option.isSome_iff_exists.mp found
      exact ⟨v, last, fun _ => value.trans last⟩
    | some part =>
      rw [put] at own
      have found : (lastOf? field.spells (Value.insert (.text field.name)
          (part.laidOver (lookup? (.text field.name) members)) members)).isSome := by
        obtain ⟨entry, member, same⟩ := List.mem_map.mp (mem_keys_insert_self (s := field.name))
        exact lastOf?_isSome.mpr ⟨entry, member, same ▸ spells_own field⟩
      obtain ⟨v, last⟩ := Option.isSome_iff_exists.mp found
      refine ⟨v, last, fun plain => ?_⟩
      cases read : env.read? field.ownName with
      | some raw =>
        rw [read] at own value
        cases simple?_eq_some own
        exact value.trans last
      | none =>
        rw [read] at own value
        -- Without a variable of its own the field has a part only as a mapping, and that is not the value told.
        obtain ⟨inner, rfl⟩ := exists_map_of_simple? own
        rcases lastOf?_insert (fun _ => exists_text_of_spells) (spells_own field) with new | kept
        · obtain ⟨entries, mapping⟩ := exists_map_laidOver inner (lookup? (.text field.name) members)
          rw [new, mapping] at last
          exact absurd (Option.some.inj last).symm (plain entries)
        · exact value.trans (kept.symm.trans last)

theorem HasFace.of_putAt {faces : Entries} {part : Value} (has : HasFace (putAt part keys faces) name) :
    HasFace faces name ∨ ∃ rest, keys = name :: rest := by
  obtain ⟨key, member, named⟩ := has
  cases keys with
  | nil => exact .inl ⟨key, member, named⟩
  | cons first rest =>
    rcases (putAt_put part first rest faces).mem_keys member with known | rfl
    · exact .inl ⟨key, known, named⟩
    · cases named
      exact .inr ⟨rest, rfl⟩

theorem HasFace.of_overlaid {under upper : Entries} (has : HasFace (Entries.overlaid under upper) name) :
    HasFace under name ∨ HasFace upper name := by
  obtain ⟨key, member, named⟩ := has
  exact (Entries.mem_keys_overlaid member).imp (⟨key, ·, named⟩) (⟨key, ·, named⟩)

theorem valueOf_faces {raw : String} {faces : Entries} (read : valueOf .fonts ["faces"] raw = .ok (.map faces)) :
    Json.read raw = .ok (.map faces) := by
  unfold valueOf at read
  split at read
  · unfold jsonValue at read
    split at read
    next held =>
      cases read
      exact held
    next => cases read
    next => cases read
  · cases read

/-- What parts make for the faces is named: all of it stands in the JSON of the faces or in variables of its own. -/
theorem namesFace_of_parts (held : env.members? .fonts = some members)
    (run : parts .fonts env.lowered [] = .ok made) {faces : Entries}
    (found : lookup? (.text "faces") made = some (.map faces)) (has : HasFace faces name) : env.NamesFace name := by
  -- The induction is on the variables, so the faces and the name have to be those of any stage of it.
  suffices all : ∀ faces, lookup? (.text "faces") made = some (.map faces) →
      ∀ name, HasFace faces name → env.NamesFace name from all faces found name has
  refine parts_induct (fun entries => ∀ faces, lookup? (.text "faces") entries = some (.map faces) →
    ∀ name, HasFace faces name → env.NamesFace name) ?_ run (fun _ none => absurd none (Option.some_ne_none _).symm)
  intro low member first rest part before after leads read put known faces seen name has
  obtain ⟨entry, within, same, text⟩ := exists_of_mem_lowered member
  by_cases apart : first = "faces"
  · subst apart
    rw [← same] at leads
    have below {inner : Entries} (deeper : HasFace (putAt part rest inner) name) :
        HasFace inner name ∨ env.NamesFace name :=
      deeper.of_putAt.imp_right fun led => .below held within (led.choose_spec ▸ leads)
    cases put with
    | here only =>
      subst only
      rw [lookup?_insert, if_pos (sameKey_text.mpr rfl)] at seen
      cases seen
      exact .own held within leads (text ▸ valueOf_faces read) has
    | new =>
      rw [lookup?_insert, if_pos (sameKey_text.mpr rfl)] at seen
      cases seen
      refine (below has).resolve_left ?_
      rintro ⟨_, none, _⟩
      cases none
    | inside _ there =>
      rw [lookup?_insert, if_pos (sameKey_text.mpr rfl)] at seen
      cases seen
      exact (below has).elim (known _ there name) id
    | stays => exact known faces seen name has
  · rw [put.lookup?_of_ne apart] at seen
    exact known faces seen name has

/-- Every face that the environment tells of is named in it. -/
theorem Tells.namesFace (tells : env.Tells SettingsField.faces.area d) {faces : Entries}
    (found : lookup? (.text SettingsField.faces.name) d = some (.map faces)) (has : HasFace faces name) :
    env.NamesFace name := by
  cases tells with
  | nothing => cases found
  | @mapping members made held run =>
    have member {key : Value} {own : Entries} (inside : (key, .map own) ∈ members)
        (spelled : SettingsField.faces.spells key = true) (has : HasFace own name) : env.NamesFace name :=
      .member held inside spelled has
    have last (there : lastOf? SettingsField.faces.spells members = some (.map faces)) : env.NamesFace name := by
      obtain ⟨key, inside, spelled⟩ := mem_of_lastOf? there
      exact member inside spelled has
    have told := found.symm.trans (Tells.lookup?_mapping members run)
    cases put : lookup? (.text SettingsField.faces.name) made with
    | none =>
      rw [put] at told
      exact last told.symm
    | some part =>
      rw [put] at told
      dsimp only at told
      rcases lastOf?_insert (fun _ => exists_text_of_spells) (spells_own .faces) with new | kept
      · rw [new] at told
        rcases of_laidOver_eq_map (Option.some.inj told).symm with ⟨rfl, _⟩ | ⟨above, inner, rfl, under, rfl⟩
        · exact namesFace_of_parts held run put has
        · rcases has.of_overlaid with below | upper
          · exact member (mem_of_lookup? under) (spells_own .faces) below
          · exact namesFace_of_parts held run put upper
      · exact last (kept.symm.trans told.symm)

end

section
variable {told : Entries} {areas : List Section}

theorem sections_told (said : sections env areas = .ok told) (once : areas.Nodup) :
    Entries.Clear told ∧ told.Within areas ∧
      ∀ area ∈ areas, env.sectionValue area = .ok (lookup? (.text area.name) told) := by
  induction areas generalizing told with
  | nil =>
    cases said
    exact ⟨List.Pairwise.nil, List.forall_mem_nil _, List.forall_mem_nil _⟩
  | cons head rest ih =>
    obtain ⟨fresh, others⟩ := List.nodup_cons.mp once
    rw [sections] at said
    obtain ⟨value, own, said⟩ := result_bind_eq_ok.mp said
    obtain ⟨entries, later, said⟩ := result_bind_eq_ok.mp said
    cases said
    obtain ⟨clear, within, known⟩ := ih later others
    have absent : lookup? (.text head.name) entries = none := within.lookup?_of_not_mem fresh
    cases value with
    | none =>
      refine ⟨clear, within.mono head, List.forall_mem_cons.mpr ⟨?_, known⟩⟩
      rw [own]
      exact congrArg Except.ok absent.symm
    | some v =>
      refine ⟨?_, within.cons head v, List.forall_mem_cons.mpr ⟨?_, fun area member => ?_⟩⟩
      · refine List.pairwise_cons.mpr ⟨fun key member s named same => ?_, clear⟩
        obtain ⟨entry, inside, spot⟩ := List.mem_map.mp member
        cases named
        exact lookup?_eq_none.mp absent entry inside (spot.trans same)
      · rw [own]
        exact congrArg Except.ok ((Entries.lookup?_section_cons ..).trans (if_pos rfl)).symm
      · rw [known area member]
        have apart : head ≠ area := fun same => fresh (same ▸ member)
        exact congrArg Except.ok ((Entries.lookup?_section_cons ..).trans (if_neg apart)).symm

/-- What an environment says of the settings is what it tells of each section. -/
theorem entries_told (said : env.entries = .ok told) :
    Entries.Clear told ∧ ∀ area, env.lowered.sectionValue area = .ok (lookup? (.text area.name) told) := by
  obtain ⟨clear, _, known⟩ := sections_told said (by decide)
  exact ⟨clear, fun area => known area (by cases area <;> decide)⟩

/-- No variable of the environment begins like those of the settings. -/
def Silent (env : Environment) : Prop := ∀ entry ∈ env, ¬ "yamlcv_".toList <+: Text.lower entry.1.toList

theorem parts_of_none (none : ∀ entry ∈ env, keysBelow? area entry.1 = none) (entries : Entries) :
    parts area env entries = .ok entries := by
  induction env with
  | nil => rfl
  | cons head rest ih =>
    obtain ⟨own, others⟩ := List.forall_mem_cons.mp none
    rw [parts, own]
    exact ih others

theorem entries_of_silent (silent : env.Silent) : env.entries = .ok [] := by
  have apart {low : String × String} (member : low ∈ env.lowered) (area : Section) :
      ¬ (variableOf area).toList <+: low.1.toList := by
    obtain ⟨entry, within, named, _⟩ := exists_of_mem_lowered member
    rw [← named, small, String.toList_ofList, variableOf, String.toList_append]
    exact fun front => silent entry within ((List.prefix_append ..).trans front)
  have value (area : Section) : env.lowered.sectionValue area = .ok none := by
    have found : env.lowered.find? (·.1 == variableOf area) = none := by
      refine List.find?_eq_none.mpr fun low member same => apart member area ?_
      exact beq_iff_eq.mp same ▸ List.prefix_refl _
    have run : parts area env.lowered [] = .ok [] := by
      refine parts_of_none (fun low member => Option.eq_none_iff_forall_ne_some.mpr fun keys leads => ?_) []
      obtain ⟨tail, same, _⟩ := keysBelow?_eq_some.mp leads
      rw [String.toList_append, List.append_assoc] at same
      exact apart member area ⟨_, same.symm⟩
    rw [sectionValue, found]
    dsimp only
    rw [run]
    rfl
  have none (areas : List Section) : env.lowered.sections areas = .ok [] := by
    induction areas with
    | nil => rfl
    | cons area rest ih =>
      rw [sections, value, ih]
      rfl
  exact none Section.all

end

end Environment

end Rirekisho
