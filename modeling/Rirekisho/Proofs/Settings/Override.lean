import Rirekisho.Proofs.Settings.Environment
import Rirekisho.Proofs.Settings.File

namespace Rirekisho

open Value

variable {changed : Value → Prop} {under upper : Entries}

theorem Value.revised_insert {key : Value} (new : ∀ k, k.sameKey key = true → changed k) (own : changed key)
    (v : Value) (revised : Revised changed under upper) :
    Revised changed under (Value.insert key v upper) := by
  induction revised with
  | @done more fresh =>
    refine .done fun entry member => ?_
    rcases mem_keys_insert (List.mem_map_of_mem member) with known | same
    · obtain ⟨other, found, named⟩ := List.mem_map.mp known
      exact named ▸ fresh other found
    · exact same ▸ own
  | @next entry other rest upper first later ih =>
    obtain ⟨k, u⟩ := entry
    obtain ⟨l, w⟩ := other
    obtain ⟨rfl, held⟩ := first
    rw [Value.insert]
    dsimp only
    split
    next same => exact .next ⟨rfl, .inr (new k same)⟩ later
    next => exact .next ⟨rfl, held⟩ ih

/-- Entries laid over others change what has their keys and come after what has not. -/
theorem Entries.revised_overlaid (new : ∀ entry ∈ upper, ∀ k, k.sameKey entry.1 = true → changed k)
    (own : ∀ entry ∈ upper, changed entry.1) (under : Entries) : Revised changed under (overlaid under upper) := by
  suffices kept : ∀ done, Revised changed under done → Revised changed under (overlaid done upper) from
    kept under (.refl under)
  induction upper with
  | nil =>
    intro done revised
    rwa [overlaid_nil]
  | cons entry rest ih =>
    intro done revised
    obtain ⟨key, v⟩ := entry
    obtain ⟨newHere, newLater⟩ := List.forall_mem_cons.mp new
    obtain ⟨ownHere, ownLater⟩ := List.forall_mem_cons.mp own
    rw [overlaid_cons]
    exact ih newLater ownLater _ (revised_insert newHere ownHere _ revised)

namespace Schema

variable {name : String} {us os : List (String × String)} {named : String → Prop}

/-- Keys that are the same are the same text, if they are any. -/
theorem text_of_sameKey {k key : Value} (same : k.sameKey key = true) (read : text k = .valid name) :
    text key = .valid name := by
  cases k with
  | text s =>
    have equal : key = .text s := sameKey_text.mp ((sameKey_text_congr same s).symm.trans (sameKey_text.mpr rfl))
    exact equal ▸ read
  | bytes data =>
    cases key with
    | bytes other => exact beq_iff_eq.mp (show (data == other) = true from same) ▸ read
    | _ => cases same
  | _ => cases read

theorem faceList_cons_eq_valid {entry : Value × Value} {rest : Entries} :
    faceList (entry :: rest) = .valid us ↔ ∃ name file later, text entry.1 = .valid name ∧
      text entry.2 = .valid file ∧ faceList rest = .valid later ∧ us = (name, file) :: later := by
  rw [faceList, Checked.seq_eq_valid]
  constructor
  · rintro ⟨_, later, built, others, rfl⟩
    obtain ⟨_, first, rfl⟩ := Checked.map_eq_valid.mp built
    obtain ⟨_, file, named, filed, rfl⟩ := Checked.seq_eq_valid.mp first
    obtain ⟨name, labelled, rfl⟩ := Checked.map_eq_valid.mp named
    exact ⟨name, file, later, Checked.within_eq_valid.mp (Checked.within_eq_valid.mp labelled),
      Checked.within_eq_valid.mp filed, others, rfl⟩
  · rintro ⟨name, file, later, labelled, filed, others, rfl⟩
    have named : ((text entry.1).within "[key]").within entry.1.label = .valid name :=
      Checked.within_eq_valid.mpr (Checked.within_eq_valid.mpr labelled)
    have first : face entry = .valid (name, file) := Checked.seq_eq_valid.mpr
      ⟨_, file, Checked.map_eq_valid.mpr ⟨name, named, rfl⟩, Checked.within_eq_valid.mpr filed, rfl⟩
    exact ⟨_, later, Checked.map_eq_valid.mpr ⟨(name, file), first, rfl⟩, others, rfl⟩

/-- Faces go on from others if the entries that they are read from do. -/
theorem revised_faceList (names : ∀ key, changed key → ∀ name, text key = .valid name → named name)
    (revised : Revised changed under upper) (before : faceList under = .valid us)
    (after : faceList upper = .valid os) : Revised named us os := by
  induction revised generalizing us os with
  | @done more fresh =>
    cases before
    refine .done ?_
    induction more generalizing os with
    | nil =>
      cases after
      exact List.forall_mem_nil _
    | cons entry rest ih =>
      obtain ⟨own, others⟩ := List.forall_mem_cons.mp fresh
      obtain ⟨name, file, later, labelled, _, remaining, rfl⟩ := faceList_cons_eq_valid.mp after
      exact List.forall_mem_cons.mpr ⟨names entry.1 own name labelled, ih others remaining⟩
  | @next entry other rest upper first later ih =>
    obtain ⟨name, file, faces, labelled, filed, remaining, rfl⟩ := faceList_cons_eq_valid.mp before
    obtain ⟨label, fileNow, facesNow, labelledNow, filedNow, remainingNow, rfl⟩ := faceList_cons_eq_valid.mp after
    obtain ⟨sameKey, sameValue⟩ := first
    rw [← sameKey, labelled] at labelledNow
    cases labelledNow
    refine .next ⟨rfl, ?_⟩ (ih remaining remainingNow)
    rcases sameValue with kept | new
    · rw [← kept, filed] at filedNow
      exact .inl (Checked.valid.inj filedNow)
    · exact .inr (names entry.1 new name labelled)

theorem faces_eq_valid {entries : Entries} :
    faces (.map entries) = .valid us ↔ ∃ list, faceList entries = .valid list ∧ FontRegistry.registerAll list = us :=
  Checked.map_eq_valid

end Schema

namespace SettingsField

variable {env : Environment} {field : SettingsField} {given told : Entries} {settings : Settings}

/-- Where the entries of an environment lie over others, a field has what the environment tells of it, laid over what
the others have, or else that alone. -/
theorem value?_overlaid (said : env.entries = .ok told)
    (checked : Schema.settingsOf (given.overlaid told) = .valid settings) (field : SettingsField) :
    ∃ d, env.Tells field.area d ∧ field.value? (given.overlaid told) =
      ((lookup? (.text field.name) d).map (·.laidOver (field.value? given))).or (field.value? given) := by
  obtain ⟨clear, known⟩ := Environment.entries_told said
  obtain ⟨inner, found, _⟩ := Schema.settingsOf_holds checked field.area
  have laid := Entries.lookup?_overlaid clear given field.area.name
  have tells {d : Entries} := Environment.tells_of_sectionValue (d := d) (known field.area)
  cases value : lookup? (.text field.area.name) told with
  | none =>
    rw [value] at laid tells
    refine ⟨[], tells rfl, ?_⟩
    rw [value?, laid]
    rfl
  | some v =>
    rw [value] at laid tells
    rw [laid] at found
    have own := value?_of_section (laid ▸ found)
    rcases of_laidOver_eq_map found with ⟨rfl, alone⟩ | ⟨above, below, rfl, under, rfl⟩
    -- The file has no mapping for the section, so that the field has no value there either.
    · refine ⟨inner, tells rfl, own.trans ?_⟩
      have none : field.value? given = none := by
        unfold value?
        cases held : lookup? (.text field.area.name) given with
        | none => rfl
        | some u =>
          cases u with
          | map inner => exact absurd held (alone inner)
          | _ => rfl
      rw [none, Option.or_none]
      cases lookup? (.text field.name) inner with
      | none => rfl
      | some w => exact congrArg some (laidOver_none w).symm
    · have below? : field.value? given = lookup? (.text field.name) below := value?_of_section (by rw [under]; rfl)
      refine ⟨above, tells rfl, own.trans ?_⟩
      rw [below?]
      exact Entries.lookup?_overlaid (tells rfl).distinct.clear below field.name

/-- The content of a field where the settings have been loaded: paths are seen from the directory of the file, if it
is there. -/
def seen (disk : Disk) (path : Path) (field : SettingsField) (content : field.Content) :
    Except Failure field.Content :=
  match disk.holds path with
  | .ok true => field.anchored disk path.parent content
  | _ => .ok content

theorem seen_faces {disk : Disk} {path : Path} {list : List (String × String)} :
    SettingsField.faces.seen disk path list = .ok list := by
  unfold seen
  split <;> rfl

/-- The value of a field that a document has as the default of a mapping in the place of the field. -/
def wrapped? (field : SettingsField) (document : Value) : Option Value := do
  let options ← document.get? "runtime_options"
  let entries ← options.get? field.area.name
  (← entries.get? field.name).get? "default"

end SettingsField

/-- Faces that an environment tells of are put among others without touching those that it does not name. -/
theorem Environment.Tells.revised_faces {env : Environment} {d faces : Entries} {us os : List (String × String)}
    (tells : env.Tells SettingsField.faces.area d) (before : Schema.faces (.map faces) = .valid us)
    (after : SettingsField.faces.Holds (((lookup? (.text SettingsField.faces.name) d).map
      (·.laidOver (some (.map faces)))).or (some (.map faces))) os) : Revised env.NamesFace us os := by
  cases found : lookup? (.text SettingsField.faces.name) d with
  | none =>
    rw [found] at after
    cases Checked.valid.inj (before.symm.trans after)
    exact .refl us
  | some v =>
    rw [found] at after
    have after : Schema.faces (v.laidOver (some (.map faces))) = .valid os := after
    cases v with
    | map above =>
      obtain ⟨list, read, rfl⟩ := Schema.faces_eq_valid.mp before
      obtain ⟨listNow, readNow, rfl⟩ := Schema.faces_eq_valid.mp after
      have known : ∀ entry ∈ above, ∀ key, key.sameKey entry.1 = true →
          ∀ name, Schema.text key = .valid name → env.NamesFace name := fun entry member key same name read =>
        tells.namesFace found ⟨entry.1, List.mem_map_of_mem member, Schema.text_of_sameKey same read⟩
      have own : ∀ entry ∈ above, ∀ name, Schema.text entry.1 = .valid name → env.NamesFace name :=
        fun entry member name read => tells.namesFace found ⟨entry.1, List.mem_map_of_mem member, read⟩
      exact FontRegistry.revised_registerAll <|
        Schema.revised_faceList (fun _ named => named) (Entries.revised_overlaid known own faces) read readNow
    | _ => cases after

namespace Settings

variable {disk : Disk} {env bare : Environment} {path : Path} {settings usual built : Settings} {given told : Entries}
  {document v : Value} {field : SettingsField}

/-- What a settings file gives: nothing if it is not there. -/
def givenBy (disk : Disk) (path : Path) : Except Failure Entries := do
  if ← (disk.holds path).mapError (.system · path) then
    sectionsOf (← optionsOf (← fileValue disk path)) Section.all
  else return []

theorem build_eq_ok : build env given = .ok built ↔
    ∃ told, env.entries = .ok told ∧ Schema.settingsOf (given.overlaid told) = .valid built := by
  unfold build
  cases said : env.entries with
  | error failure =>
    constructor
    · rintro ⟨⟩
    · rintro ⟨_, ⟨⟩, _⟩
  | ok told =>
    have same : (Schema.settingsOf (given.overlaid told)).toResult = .ok built ↔
        Schema.settingsOf (given.overlaid told) = .valid built := by
      cases Schema.settingsOf (given.overlaid told) with
      | valid x =>
        exact ⟨fun same => congrArg _ (Except.ok.inj same), fun same => congrArg _ (Checked.valid.inj same)⟩
      | _ => constructor <;> rintro ⟨⟩
    refine same.trans ⟨fun checked => ⟨told, rfl, checked⟩, ?_⟩
    rintro ⟨_, ⟨⟩, checked⟩
    exact checked

/-- Settings are loaded in three stages: what the file gives is put under what the environment says, and every field
of what comes out is seen from where the file is. -/
theorem load_stages (loaded : load disk env path = .ok settings) : ∃ given built, givenBy disk path = .ok given ∧
    build env given = .ok built ∧ ∀ field : SettingsField, field.seen disk path (built.content field) =
      .ok (settings.content field) := by
  unfold load at loaded
  unfold givenBy SettingsField.seen
  cases there : disk.holds path with
  | error reason =>
    rw [there] at loaded
    cases loaded
  | ok found =>
    rw [there] at loaded
    cases found with
    | false => exact ⟨[], settings, rfl, loaded, fun _ => rfl⟩
    | true =>
      obtain ⟨document, read, placed⟩ := result_bind_eq_ok.mp (show (fileValue disk path >>= _) = _ from loaded)
      obtain ⟨options, chosen, placed⟩ := result_bind_eq_ok.mp placed
      obtain ⟨given, listed, placed⟩ := result_bind_eq_ok.mp placed
      obtain ⟨built, made, moved⟩ := result_bind_eq_ok.mp placed
      refine ⟨given, built, ?_, made, SettingsField.anchored_of_inDirectory moved⟩
      have given? : (fileValue disk path >>= fun document => optionsOf document >>= (sectionsOf · Section.all)) =
          .ok given := result_bind_eq_ok.mpr ⟨document, read, result_bind_eq_ok.mpr ⟨options, chosen, listed⟩⟩
      exact given?

theorem exists_of_get? {key : String} (found : document.get? key = some v) :
    ∃ entries, document = .map entries ∧ lookup? (.text key) entries = some v := by
  cases document with
  | map entries => exact ⟨entries, rfl, found⟩
  | _ => cases found

theorem isBlank_of_lookup? {key : String} {entries : Entries} (found : lookup? (.text key) entries = some v) :
    (Value.map entries).isBlank = false := by
  cases entries with
  | nil => cases found
  | cons entry rest => rfl

theorem lookup?_unwrapped {name : String} {entries inner : Entries}
    (found : lookup? (.text name) entries = some (.map inner)) (default : lookup? (.text "default") inner = some v) :
    lookup? (.text name) (entries.filterMap unwrapped) = some v := by
  induction entries with
  | nil => cases found
  | cons entry rest ih =>
    obtain ⟨key, w⟩ := entry
    rw [lookup?_cons] at found
    split at found
    next same =>
      cases found
      have kept : unwrapped (key, .map inner) = some (key, v) := congrArg (Option.map (key, ·)) default
      rw [List.filterMap_cons_some kept, lookup?_cons, if_pos same]
    next other =>
      cases kept : unwrapped (key, w) with
      | none =>
        rw [List.filterMap_cons_none kept]
        exact ih found
      | some entry =>
        have named : entry.1 = key := by
          unfold unwrapped at kept
          split at kept
          next own _ same =>
            cases same
            obtain ⟨_, _, rfl⟩ := Option.map_eq_some_iff.mp kept
            rfl
          next =>
            cases kept
            rfl
        rw [List.filterMap_cons_some kept, lookup?_cons, named, if_neg other]
        exact ih found

/-- A section that the options name is given with its entries. -/
theorem lookup?_sectionsOf {entries : Entries} {areas : List Section} {area : Section}
    (listed : sectionsOf (.map entries) areas = .ok given) (member : area ∈ areas)
    (found : lookup? (.text area.name) entries = some v) :
    ∃ inner, sectionEntries v = .ok inner ∧ lookup? (.text area.name) given = some (.map inner) := by
  induction areas generalizing given with
  | nil => cases member
  | cons head rest ih =>
    unfold sectionsOf at listed
    obtain ⟨known, asked, listed⟩ := result_bind_eq_ok.mp listed
    cases asked
    cases here : lookup? (.text head.name) entries with
    | none =>
      rw [here] at listed
      refine ih listed ((List.mem_cons.mp member).resolve_left ?_)
      rintro rfl
      cases here.symm.trans found
    | some w =>
      rw [here] at listed
      obtain ⟨inner, read, listed⟩ := result_bind_eq_ok.mp listed
      obtain ⟨others, later, listed⟩ := result_bind_eq_ok.mp listed
      cases listed
      rw [Entries.lookup?_section_cons]
      by_cases same : head = area
      · subst same
        cases here.symm.trans found
        refine ⟨inner, ?_, if_pos rfl⟩
        rwa [Value.get?, here] at read
      · rw [if_neg same]
        exact ih later ((List.mem_cons.mp member).resolve_left (Ne.symm same))

theorem holds_of_fileValue (read : fileValue disk path = .ok document) : disk.holds path = .ok true := by
  unfold fileValue at read
  split at read
  next => cases read
  next content held => exact Disk.holds_of_read held

/-- The default of a mapping in the place of a field is what the file gives for the field. -/
theorem value?_of_wrapped (listed : givenBy disk path = .ok given) (read : fileValue disk path = .ok document)
    (wrapped : field.wrapped? document = some v) : field.value? given = some v := by
  obtain ⟨options, first, wrapped⟩ := Option.bind_eq_some_iff.mp wrapped
  obtain ⟨area, second, wrapped⟩ := Option.bind_eq_some_iff.mp wrapped
  obtain ⟨place, third, fourth⟩ := Option.bind_eq_some_iff.mp wrapped
  obtain ⟨top, rfl, top?⟩ := exists_of_get? first
  obtain ⟨sections, rfl, named⟩ := exists_of_get? second
  obtain ⟨fields, rfl, held⟩ := exists_of_get? third
  obtain ⟨inner, rfl, default⟩ := exists_of_get? fourth
  unfold givenBy at listed
  rw [holds_of_fileValue read, read] at listed
  obtain ⟨options, chosen, listed⟩ := result_bind_eq_ok.mp (show (optionsOf _ >>= _) = _ from listed)
  have same : optionsOf (.map top) = .ok (.map sections) := by
    rw [optionsOf, isBlank_of_lookup? top?, if_neg Bool.false_ne_true, top?]
    rfl
  cases same.symm.trans chosen
  obtain ⟨entries, made, found⟩ := lookup?_sectionsOf listed (by cases field.area <;> decide) named
  have fielded : sectionEntries (.map fields) = .ok (fields.filterMap unwrapped) := by
    rw [sectionEntries, isBlank_of_lookup? held, if_neg Bool.false_ne_true]
  cases fielded.symm.trans made
  rw [SettingsField.value?, found]
  exact lookup?_unwrapped held default

theorem content_unique {value : Option Value} {x y : field.Content} (first : field.Holds value x)
    (second : field.Holds value y) : x = y := Checked.valid.inj (first.symm.trans second)

theorem seen_unique {x y z : field.Content} (first : field.seen disk path x = .ok y)
    (second : field.seen disk path x = .ok z) : y = z := Except.ok.inj (first.symm.trans second)

theorem check_map (scalar : field ≠ .faces) (entries : Entries) (x : field.Content) :
    field.check (.map entries) ≠ .valid x := by
  cases field with
  | faces => exact absurd rfl scalar
  | _ => rintro ⟨⟩

section
variable (said : env.entries = .ok told) (checked : Schema.settingsOf (given.overlaid told) = .valid built)
include said checked

theorem content_of_unnamed (unnamed : ¬ env.Names field) :
    field.Holds (field.value? given) (built.content field) := by
  obtain ⟨d, tells, value⟩ := SettingsField.value?_overlaid said checked field
  have held := SettingsField.holds_of_valid checked field
  rwa [value, tells.lookup?_of_unnamed unnamed] at held

theorem content_of_named (scalar : field ≠ .faces) (named : env.Names field) :
    ∃ value, env.value? field = some value ∧ field.check value = .valid (built.content field) := by
  obtain ⟨d, tells, value⟩ := SettingsField.value?_overlaid said checked field
  obtain ⟨v, found, own⟩ := tells.lookup?_of_named scalar named
  have held := SettingsField.holds_of_valid checked field
  rw [value, found] at held
  have simple (entries : Entries) : v ≠ .map entries := by
    rintro rfl
    obtain ⟨laid, mapping⟩ := exists_map_laidOver entries (field.value? given)
    refine check_map scalar laid (built.content field) ?_
    rw [← mapping]
    exact held
  exact ⟨v, own simple, laidOver_of_simple simple _ ▸ held⟩

theorem revised_content_faces {faces : Entries} {us : List (String × String)}
    (wrote : SettingsField.faces.value? given = some (.map faces)) (before : Schema.faces (.map faces) = .valid us) :
    Revised env.NamesFace us (built.content .faces) := by
  obtain ⟨d, tells, value⟩ := SettingsField.value?_overlaid said checked .faces
  have after := SettingsField.holds_of_valid checked .faces
  rw [value, wrote] at after
  exact tells.revised_faces before after

end

/-- With an environment beside it a settings file, whether it is there or not, comes to what it comes to without one,
field by field, but for what the environment names: such a field is what the environment says, with a path seen from
the directory of the file if it is there. Of the faces that the file has as a default those that the environment does
not name keep their files and their places. -/
theorem load_overridden (loaded : load disk env path = .ok settings) (silent : bare.Silent)
    (plain : load disk bare path = .ok usual) :
    (∀ field, ¬ env.Names field → settings.content field = usual.content field) ∧
      (∀ field, field ≠ .faces → env.Names field → ∃ value, env.value? field = some value ∧
        ((field.check value).toResult >>= field.seen disk path) = .ok (settings.content field)) ∧
      ∀ document faces, fileValue disk path = .ok document →
        SettingsField.faces.wrapped? document = some (.map faces) →
        Schema.faces (.map faces) = .valid usual.fonts.faces ∧
          ∀ (i : Nat) name file, usual.fonts.faces[i]? = some (name, file) → ¬ env.NamesFace name →
            settings.fonts.faces[i]? = some (name, file) := by
  -- Both loads start from what the same file gives, and end with the same view of the paths.
  obtain ⟨given, built, from?, made, seen⟩ := load_stages loaded
  obtain ⟨_, usualBuilt, again, usualMade, usualSeen⟩ := load_stages plain
  cases from?.symm.trans again
  obtain ⟨told, said, checked⟩ := build_eq_ok.mp made
  obtain ⟨nothing, silence, usualChecked⟩ := build_eq_ok.mp usualMade
  cases (Environment.entries_of_silent silent).symm.trans silence
  rw [Entries.overlaid_nil] at usualChecked
  have usually (field : SettingsField) : field.Holds (field.value? given) (usualBuilt.content field) :=
    SettingsField.holds_of_valid usualChecked field
  refine ⟨fun field unnamed => ?_, fun field scalar named => ?_, fun document faces read wrapped => ?_⟩
  · have same := content_unique (content_of_unnamed said checked unnamed) (usually field)
    exact seen_unique (same ▸ seen field) (usualSeen field)
  · obtain ⟨v, own, check⟩ := content_of_named said checked scalar named
    refine ⟨v, own, ?_⟩
    rw [check]
    exact seen field
  · have wrote := value?_of_wrapped from? read wrapped
    have usualFaces : usualBuilt.content .faces = usual.fonts.faces :=
      Except.ok.inj (SettingsField.seen_faces.symm.trans (usualSeen .faces))
    have faces? : built.content .faces = settings.fonts.faces :=
      Except.ok.inj (SettingsField.seen_faces.symm.trans (seen .faces))
    have before : Schema.faces (.map faces) = .valid usual.fonts.faces := by
      have held := usually .faces
      rw [wrote, usualFaces] at held
      exact held
    have revised := revised_content_faces said checked wrote before
    rw [faces?] at revised
    exact ⟨before, fun i name file found same => revised.getElem? found same⟩

section
open Yaml

/-- With what the file gives laid under what the environment says, nothing but the checks is left to do. -/
theorem ofDocument_eq (directory : Path)
    (listed : (optionsOf document >>= (sectionsOf · Section.all)) = .ok given) (said : env.entries = .ok told) :
    ofDocument disk env directory document =
      ((Schema.settingsOf (given.overlaid told)).toResult >>= inDirectory disk directory) := by
  obtain ⟨options, chosen, listed⟩ := result_bind_eq_ok.mp listed
  unfold ofDocument build
  rw [chosen, said]
  show (sectionsOf options Section.all >>= _) = _
  rw [listed]
  rfl

/-- A directory and a face in the environment: the directory is seen from that of the file, the face of the file keeps
its place, and the title is what it is without them. -/
theorem load_overridden_face :
    let disk := diskOf "runtime_options:\n  fonts:\n    faces:\n      default:\n        a: b\n"
    let path : Path := ⟨.here, ["settings.yaml"]⟩
    let env := [("YAMLCV_FONTS__FONT_DIR", "d"), ("yamlcv_fonts__faces__C", "e")]
    ∃ settings usual, load disk env path = .ok settings ∧ load disk [] path = .ok usual ∧
      settings.page.title = usual.page.title ∧ settings.fonts.directory = ⟨.root, ["d"]⟩ ∧
      settings.fonts.faces[0]? = some ("a", "b") := by
  intro disk path env
  let faces : Value := .map [(.text "default", .map [(.text "a", .text "b")])]
  let document : Value := .map [(.text "runtime_options", .map [(.text "fonts", .map [(.text "faces", faces)])])]
  have lexed : Token.ofSource (Source.visible
      { text := Text.unifyNewlines
          "runtime_options:\n  fonts:\n    faces:\n      default:\n        a: b\n".toList }) =
      [.blockMapStart, .key, .scalar "runtime_options".toList true, .value,
        .blockMapStart, .key, .scalar "fonts".toList true, .value,
        .blockMapStart, .key, .scalar "faces".toList true, .value,
        .blockMapStart, .key, .scalar "default".toList true, .value,
        .blockMapStart, .key, .scalar "a".toList true, .value, .scalar "b".toList true,
        .blockEnd, .blockEnd, .blockEnd, .blockEnd, .blockEnd, .streamEnd] := by decide +kernel
  have parsed : Yaml.read (.ofContent (.bytes
      "runtime_options:\n  fonts:\n    faces:\n      default:\n        a: b\n".toUTF8)) = .ok document :=
    read_of_tokens lexed rfl
  have loads (env : Environment) := load_eq_ofDocument env (read_diskOf _) parsed
  have file : fileValue disk path = .ok document := by
    rw [fileValue, read_diskOf]
    exact parsed
  let own : Entries := [(.text "a", .text "b")]
  let parts : Entries := [(.text "font_dir", .text "d"), (.text "faces", .map [(.text "c", .text "e")])]
  let both : Entries := [(.text "a", .text "b"), (.text "c", .text "e")]
  have listed : (optionsOf document >>= (sectionsOf · Section.all)) =
    .ok [(.text "fonts", .map [(.text "faces", .map own)])] := rfl
  have low : Environment.lowered env = [("yamlcv_fonts__font_dir", "d"), ("yamlcv_fonts__faces__c", "e")] := by
    decide +kernel
  have said : Environment.entries env = .ok [(.text "fonts", .map parts)] := by
    rw [Environment.entries, low]
    rfl
  have silent : Environment.entries [] = .ok [] := rfl
  have merged : Entries.overlaid [(.text "fonts", .map [(.text "faces", .map own)])] [(.text "fonts", .map parts)] =
      [(.text "fonts", .map [(.text "faces", .map both), (.text "font_dir", .text "d")])] := by
    have inner : Entries.overlaid own [(.text "c", .text "e")] = both := by
      rw [Entries.overlaid_cons, Entries.overlaid_nil]
      rfl
    rw [Entries.overlaid_cons, Entries.overlaid_nil]
    show Value.insert _ (.map (Entries.overlaid [(.text "faces", .map own)] parts)) _ = _
    rw [Entries.overlaid_cons, Entries.overlaid_cons, Entries.overlaid_nil]
    show Value.insert _ (.map (Value.insert _ (.map (Entries.overlaid own [(.text "c", .text "e")])) _)) _ = _
    rw [inner]
    rfl
  have ends : (∃ settings, load disk env path = .ok settings) ∧ ∃ usual, load disk [] path = .ok usual := by
    rw [loads, loads, ofDocument_eq _ listed said, ofDocument_eq _ listed silent, merged, Entries.overlaid_nil]
    exact ⟨(exists_ok_of_any (p := fun _ => true) (by decide +kernel)).imp fun _ => And.left,
      (exists_ok_of_any (p := fun _ => true) (by decide +kernel)).imp fun _ => And.left⟩
  obtain ⟨⟨settings, loaded⟩, usual, plain⟩ := ends
  have alone (area : Section) : Environment.members? env area = some [] := by
    rw [Environment.members?, ← Environment.find?_lowered, low]
    cases area <;> rfl
  have away : ∀ entry ∈ Environment.lowered env, Environment.keysBelow? .page entry.1 = none := low ▸ by decide
  have leads : ∀ entry ∈ Environment.lowered env, Environment.keysBelow? .fonts entry.1 = some ["font_dir"] ∨
      Environment.keysBelow? .fonts entry.1 = some ["faces", "c"] := low ▸ by decide
  have unnamed : ¬ Environment.Names env .title := by
    rintro (⟨held, found, _⟩ | ⟨_, found, other⟩)
    · cases (alone _).symm.trans held
      cases found
    · obtain ⟨entry, within, same⟩ := Environment.exists_mem_lowered found
      cases (away entry within).symm.trans (same ▸ other)
  have named : Environment.Names env .directory :=
    .below (alone _) (List.mem_cons_self ..)
      (show Environment.keysBelow? .fonts _ = some ["font_dir"] by decide +kernel)
  have nameless : ¬ Environment.NamesFace env "a" := by
    rintro (⟨held, found, _⟩ | ⟨_, found, other, _⟩ | ⟨_, found, other⟩)
    · cases (alone _).symm.trans held
      cases found
    · obtain ⟨entry, within, same⟩ := Environment.exists_mem_lowered found
      rcases leads entry within with own | own
      · exact absurd (Option.some.inj (own.symm.trans (same ▸ other))) (by decide)
      · exact absurd (Option.some.inj (own.symm.trans (same ▸ other))) (by decide)
    · obtain ⟨entry, within, same⟩ := Environment.exists_mem_lowered found
      rcases leads entry within with own | own
      · exact absurd (List.cons.inj (Option.some.inj (own.symm.trans (same ▸ other)))).1 (by decide)
      · exact absurd (List.cons.inj (List.cons.inj (Option.some.inj (own.symm.trans (same ▸ other)))).2).1 (by decide)
  obtain ⟨same, told, kept⟩ := load_overridden loaded (List.forall_mem_nil _) plain
  obtain ⟨before, stays⟩ := kept document own file rfl
  have directory : Environment.value? env .directory = some (.text "d") := by
    rw [Environment.value?, alone, ← Environment.find?_lowered, low]
    rfl
  obtain ⟨value, said, checked⟩ := told .directory (by decide) named
  cases directory.symm.trans said
  refine ⟨settings, usual, loaded, plain, same .title unnamed, ?_, stays 0 "a" "b" ?_ nameless⟩
  · have seen : SettingsField.directory.seen disk path (Path.ofText "d") = .ok ⟨.root, ["d"]⟩ := by
      unfold SettingsField.seen
      rw [Disk.holds_of_read (read_diskOf _)]
      rfl
    exact (Except.ok.inj (seen.symm.trans checked)).symm
  · have read : Schema.faces (.map own) = .valid [("a", "b")] := rfl
    rw [← Checked.valid.inj (read.symm.trans before)]
    rfl

/-- A title in the environment beside a page that is null there: the title of the file stays. -/
theorem load_null_section :
    let disk := diskOf "runtime_options:\n  page:\n    title: B\n"
    let path : Path := ⟨.here, ["settings.yaml"]⟩
    let env := [("YAMLCV_PAGE", "null"), ("YAMLCV_PAGE__TITLE", "A")]
    Environment.read? env SettingsField.title.ownName = some "A" ∧
      (load disk env path).toOption.map (·.page.title) = some "B" ∧
      (load disk [] path).toOption.map (·.page.title) = some "B" := by
  intro disk path env
  have lexed : Token.ofSource (Source.visible
      { text := Text.unifyNewlines "runtime_options:\n  page:\n    title: B\n".toList }) =
      [.blockMapStart, .key, .scalar "runtime_options".toList true, .value,
        .blockMapStart, .key, .scalar "page".toList true, .value,
        .blockMapStart, .key, .scalar "title".toList true, .value, .scalar "B".toList true,
        .blockEnd, .blockEnd, .blockEnd, .streamEnd] := by decide +kernel
  let page : Value := .map [(.text "title", .text "B")]
  let document : Value := .map [(.text "runtime_options", .map [(.text "page", page)])]
  have parsed : Yaml.read (.ofContent (.bytes "runtime_options:\n  page:\n    title: B\n".toUTF8)) = .ok document :=
    read_of_tokens lexed rfl
  have loads (env : Environment) := load_eq_ofDocument env (read_diskOf _) parsed
  have listed : (optionsOf document >>= (sectionsOf · Section.all)) = .ok [(.text "page", page)] := rfl
  have said : Environment.entries env = .ok [] := rfl
  have silent : Environment.entries [] = .ok [] := rfl
  rw [loads, loads, ofDocument_eq _ listed said, ofDocument_eq _ listed silent, Entries.overlaid_nil]
  refine ⟨?_, ?_, ?_⟩
  · decide +kernel
  · decide +kernel
  · decide +kernel

end

end Settings

end Rirekisho
