import Rirekisho.Proofs.Settings.Environment
import Rirekisho.Proofs.Settings.File

namespace Rirekisho

open Value

namespace Entries

/-- What stands under the name of a section. Nothing is as good as an empty mapping. -/
def part (entries : Entries) (area : Section) : Value := (lookup? (.text area.name) entries).getD (.map [])

variable {entries under upper : Entries} {areas : List Section} {area : Section}

theorem part_cons (head : Section) (v : Value) (rest : Entries) (area : Section) :
    part ((.text head.name, v) :: rest) area = if head = area then v else part rest area := by
  rw [part, lookup?_section_cons]
  split <;> rfl

theorem Within.part_of_not_mem (within : entries.Within areas) (absent : area ∉ areas) :
    entries.part area = .map [] := by
  rw [part, within.lookup?_of_not_mem absent, Option.getD_none]

theorem Within.overlaid (below : under.Within areas) (above : upper.Within areas) :
    (Entries.overlaid under upper).Within areas :=
  fun key member => (mem_keys_overlaid member).elim (below key) (above key)

theorem laidOver_getD {v : Value} (distinct : ∀ above, v = .map above → Distinct above) (below : Option Value) :
    v.laidOver below = v.laidOver (some (below.getD (.map []))) := by
  cases below with
  | some w => rfl
  | none =>
    cases v with
    | map above => exact congrArg Value.map (overlaid_empty (distinct above rfl)).symm
    | _ => rfl

/-- Of the entries below, what stands under the name of a section matters, and whether it is there at all does not. -/
theorem part_overlaid (clear : Clear upper)
    (distinct : ∀ above, lookup? (.text area.name) upper = some (.map above) → Distinct above) (under : Entries) :
    (overlaid under upper).part area =
      ((lookup? (.text area.name) upper).map (·.laidOver (some (under.part area)))).getD (under.part area) := by
  rw [part, lookup?_overlaid clear]
  cases found : lookup? (.text area.name) upper with
  | none => rfl
  | some v =>
    refine laidOver_getD (fun above same => distinct above ?_) _
    rw [found, same]

end Entries

namespace Schema

variable {β : Type} {model : String} {usual : β} {entries other : Entries} {area : Section}

/-- A section that is left out is checked like an empty mapping, if that is valid and gives the usual section. -/
theorem section_congr (check : Entries → Checked β) (empty : check [] = .valid usual)
    (same : entries.part area = other.part area) :
    entries.optional area.name usual (entriesOf model check) =
      other.optional area.name usual (entriesOf model check) := by
  have checked (entries : Entries) : entries.optional area.name usual (entriesOf model check) =
      (entriesOf model check (entries.part area)).within area.name := by
    unfold Entries.optional Entries.part
    cases lookup? (.text area.name) entries with
    | some v => rfl
    | none => exact (congrArg (Checked.within area.name) empty).symm
  rw [checked, checked, same]

theorem strangers_eq_nil (within : entries.Within Section.all) : strangers entries = [] := by
  refine List.filter_eq_nil_iff.mpr fun label member stranger => ?_
  obtain ⟨entry, found, rfl⟩ := List.mem_map.mp member
  obtain ⟨area, among, same⟩ := within entry.1 (List.mem_map_of_mem found)
  have known : (Section.all.map Section.name).contains entry.1.label = true := by
    rw [same]
    exact List.contains_iff_mem.mpr (List.mem_map_of_mem among)
  rw [known] at stranger
  cases stranger

/-- The settings depend on what stands under the names of the sections, and on nothing else if there is nothing
else. -/
theorem settingsOf_congr (first : entries.Within Section.all) (second : other.Within Section.all)
    (same : ∀ area, entries.part area = other.part area) : settingsOf entries = settingsOf other := by
  unfold settingsOf
  rw [strangers_eq_nil first, strangers_eq_nil second]
  dsimp only
  rw [section_congr pageOf rfl (same .page), section_congr fontsOf rfl (same .fonts),
    section_congr photoOf rfl (same .photo), section_congr logOf rfl (same .log)]

end Schema

namespace Settings

variable {entries other options : Entries} {areas : List Section}

theorem build_congr (first : entries.Within Section.all) (second : other.Within Section.all)
    (same : ∀ area, entries.part area = other.part area) (env : Environment) :
    build env entries = build env other := by
  unfold build
  cases said : env.entries with
  | error e => rfl
  | ok told =>
    obtain ⟨clear, known⟩ := Environment.entries_told said
    have within : told.Within Section.all := (Environment.sections_told said (by decide)).2.1
    have distinct (area : Section) (above : Entries)
        (found : lookup? (.text area.name) told = some (.map above)) : above.Distinct := by
      refine (Environment.tells_of_sectionValue (known area) ?_).distinct
      rw [found, Option.getD_some]
    refine congrArg Checked.toResult (Schema.settingsOf_congr (first.overlaid within) (second.overlaid within) ?_)
    intro area
    rw [Entries.part_overlaid clear (distinct area), Entries.part_overlaid clear (distinct area), same area]

/-- The node of a section among the options. Without one it is null. -/
def node (options : Entries) (area : Section) : Value := (lookup? (.text area.name) options).getD .null

/-- The entries of sections with the given nodes, those of empty nodes too. -/
def allSections (nodes : Section → Value) : List Section → Except Failure Entries
  | [] => .ok []
  | area :: rest => do
    let entries ← sectionEntries (nodes area)
    return (.text area.name, .map entries) :: (← allSections nodes rest)

/-- Both ways to get the entries of sections fail for the same reason, or the entries say the same of each. -/
inductive Alike (areas : List Section) : Except Failure Entries → Except Failure Entries → Prop
  | failed (e : Failure) : Alike areas (.error e) (.error e)
  | given {first second : Entries} (within : first.Within areas) (other : second.Within areas)
      (same : ∀ area, first.part area = second.part area) : Alike areas (.ok first) (.ok second)

theorem sectionsOf_cons (options : Entries) (area : Section) (rest : List Section) :
    sectionsOf (.map options) (area :: rest) = (do
      let entries ← sectionEntries (node options area)
      let others ← sectionsOf (.map options) rest
      return if (lookup? (.text area.name) options).isSome then (.text area.name, .map entries) :: others
        else others) := by
  rw [sectionsOf, node]
  cases found : lookup? (.text area.name) options with
  | none =>
    simp only [names, found]
    exact (bind_pure _).symm
  | some v =>
    simp only [names, get?, found]
    rfl

/-- Whether an empty section is named does not matter: it is as if all sections were. -/
theorem sectionsOf_alike (options : Entries) (once : areas.Nodup) :
    Alike areas (sectionsOf (.map options) areas) (allSections (node options) areas) := by
  induction areas with
  | nil => exact .given (List.forall_mem_nil _) (List.forall_mem_nil _) fun _ => rfl
  | cons head rest ih =>
    obtain ⟨fresh, others⟩ := List.nodup_cons.mp once
    rw [sectionsOf_cons, allSections]
    cases made : sectionEntries (node options head) with
    | error e => exact .failed e
    | ok inner =>
      generalize sectionsOf (.map options) rest = named at ih ⊢
      generalize allSections (node options) rest = every at ih ⊢
      cases ih others with
      | failed e => exact .failed e
      | given first second same =>
        refine .given ?_ (second.cons head (.map inner)) fun area => ?_
        · split
          · exact first.cons head (.map inner)
          · exact first.mono head
        · rw [Entries.part_cons]
          split
          next present => rw [Entries.part_cons, same]
          next absent =>
            -- A section that is not named has the entries of null, and those are none.
            rw [Option.not_isSome_iff_eq_none] at absent
            rw [node, absent] at made
            cases made
            split
            next here => exact here ▸ first.part_of_not_mem fresh
            next => exact same area

theorem build_alike {first second : Except Failure Entries} (alike : Alike Section.all first second)
    (env : Environment) : first >>= build env = second >>= build env := by
  cases alike with
  | failed e => rfl
  | given first second same => exact build_congr first second same env

/-- The options that a document gives: none if it is empty or does not name them, and else the mapping under their
name. -/
inductive Gives : Value → Entries → Prop
  | blank {document : Value} (empty : document.isBlank = true) : Gives document []
  | unnamed {top : Entries} (absent : lookup? (.text "runtime_options") top = none) : Gives (.map top) []
  | named {top options : Entries} (held : lookup? (.text "runtime_options") top = some (.map options)) :
      Gives (.map top) options

theorem optionsOf_map (top : Entries) :
    optionsOf (.map top) = .ok ((lookup? (.text "runtime_options") top).getD (.map [])) := by
  cases top with
  | nil => rfl
  | cons entry rest => rfl

theorem Gives.optionsOf_eq {document : Value} (gives : Gives document options) :
    optionsOf document = .ok (.map options) := by
  cases gives with
  | blank empty => exact if_pos empty
  | unnamed absent => rw [optionsOf_map, absent, Option.getD_none]
  | named held => rw [optionsOf_map, held, Option.getD_some]

/-- Of the options the nodes of the sections count. -/
theorem ofDocument_nodes {document : Value} (gives : Gives document options) (disk : Disk) (env : Environment)
    (directory : Path) : ofDocument disk env directory document =
      (allSections (node options) Section.all >>= build env) >>= inDirectory disk directory := by
  have once : Section.all.Nodup := by decide
  rw [← build_alike (sectionsOf_alike options once) env, ofDocument, gives.optionsOf_eq, bind_assoc]
  rfl

theorem ofDocument_null {top : Entries} (held : lookup? (.text "runtime_options") top = some .null) (disk : Disk)
    (env : Environment) (directory : Path) : ofDocument disk env directory (.map top) = .error .notContainer := by
  rw [ofDocument, optionsOf_map, held, Option.getD_some]
  rfl

/-- Two files come to the same settings, or fail in the same way, in every environment, if their documents give
options with the same nodes: a section that is null in one may be left out of the other, and there may be no options
if all sections are empty. If the options themselves are null, no environment makes settings of the file. -/
theorem load_emptied {disk blank : Disk} {path : Path} {content written : Content} {document bare : Value}
    (home : disk.home = blank.home) (read : disk.read path = .ok content)
    (parsed : Yaml.read (.ofContent content) = .ok document) (blankRead : blank.read path = .ok written)
    (blankParsed : Yaml.read (.ofContent written) = .ok bare) (env : Environment) :
    (∀ options emptied, Gives document options → Gives bare emptied → node options = node emptied →
      load disk env path = load blank env path) ∧
    ∀ top, document = .map top → lookup? (.text "runtime_options") top = some .null →
      load disk env path = .error .notContainer := by
  rw [load_eq_ofDocument env read parsed, load_eq_ofDocument env blankRead blankParsed]
  constructor
  · intro options emptied gives given same
    rw [ofDocument_nodes gives, ofDocument_nodes given, same]
    unfold inDirectory anchored Disk.homePath
    rw [home]
  · rintro top rfl held
    exact ofDocument_null held disk env path.parent

section
open Yaml

theorem read_nullOptions : Yaml.read (.ofContent (.bytes "runtime_options:\n".toUTF8)) =
    .ok (.map [(.text "runtime_options", .null)]) := by
  have lexed : Token.ofSource (Source.visible { text := Text.unifyNewlines "runtime_options:\n".toList }) =
      [.blockMapStart, .key, .scalar "runtime_options".toList true, .value, .blockEnd, .streamEnd] := by
    decide +kernel
  exact read_of_tokens lexed rfl

/-- A photo that is null or left out, beside a title and a resolution in the environment; and options that are
null. -/
theorem load_emptied_photo :
    let full := "runtime_options:\n  page:\n    title: A\n  photo:\n"
    let bare := "runtime_options:\n  page:\n    title: A\n"
    let path : Path := ⟨.here, ["settings.yaml"]⟩
    let env := [("YAMLCV_PHOTO__DPI", "96")]
    load (diskOf full) env path = load (diskOf bare) env path ∧
      load (diskOf "runtime_options:\n") env path = .error .notContainer := by
  intro full bare path env
  let page : Value := .map [(.text "title", .text "A")]
  have parsed : Yaml.read (.ofContent (.bytes full.toUTF8)) =
      .ok (.map [(.text "runtime_options", .map [(.text "page", page), (.text "photo", .null)])]) := by
    have lexed : Token.ofSource (Source.visible { text := Text.unifyNewlines full.toList }) =
        [.blockMapStart, .key, .scalar "runtime_options".toList true, .value,
          .blockMapStart, .key, .scalar "page".toList true, .value,
          .blockMapStart, .key, .scalar "title".toList true, .value, .scalar "A".toList true, .blockEnd,
          .key, .scalar "photo".toList true, .value, .blockEnd, .blockEnd, .streamEnd] := by decide +kernel
    exact read_of_tokens lexed rfl
  have bareParsed : Yaml.read (.ofContent (.bytes bare.toUTF8)) =
      .ok (.map [(.text "runtime_options", .map [(.text "page", page)])]) := by
    have lexed : Token.ofSource (Source.visible { text := Text.unifyNewlines bare.toList }) =
        [.blockMapStart, .key, .scalar "runtime_options".toList true, .value,
          .blockMapStart, .key, .scalar "page".toList true, .value,
          .blockMapStart, .key, .scalar "title".toList true, .value, .scalar "A".toList true,
          .blockEnd, .blockEnd, .blockEnd, .streamEnd] := by decide +kernel
    exact read_of_tokens lexed rfl
  have nodes : node [(.text "page", page), (.text "photo", .null)] = node [(.text "page", page)] := by
    funext area
    cases area <;> rfl
  have home (text : String) : (diskOf text).home = (diskOf bare).home := rfl
  constructor
  · exact (load_emptied (home full) (read_diskOf full) parsed (read_diskOf bare) bareParsed env).1 _ _ (.named rfl)
      (.named rfl) nodes
  · exact (load_emptied (home _) (read_diskOf _) read_nullOptions (read_diskOf bare) bareParsed env).2 _ rfl rfl

/-- Options that are null are no mapping that is empty: without options the settings are the usual ones. -/
theorem load_nullOptions :
    load (diskOf "runtime_options:\n") [] ⟨.here, ["settings.yaml"]⟩ = .error .notContainer ∧
      (ofText? "").map (·.page.title) = some "CV" ∧ (ofText? "notes:\n").map (·.page.title) = some "CV" := by
  refine ⟨?_, ?_, ?_⟩
  · rw [load_eq_ofDocument [] (read_diskOf _) read_nullOptions]
    exact ofDocument_null rfl ..
  · rw [ofText?_eq]
    decide +kernel
  · rw [ofText?_eq]
    decide +kernel

end

end Settings

end Rirekisho
