import Rirekisho.Proofs.Storage.Disk
import Rirekisho.Proofs.Value.Lookup
import Rirekisho.Proofs.Yaml.Tree
import Rirekisho.Settings.File

namespace Rirekisho

namespace Value

/-- A value is written in the place of a field: as it is, if it is no mapping, or as the default of one. -/
inductive Written (v : Value) : Value → Prop
  | plain (simple : ∀ entries, v ≠ .map entries) : Written v v
  | wrapped {entries : Entries} (default : lookup? (.text "default") entries = some v) : Written v (.map entries)

end Value

namespace Settings

variable {v x y : Value}

theorem unwrapped_written (written : v.Written x) (key : Value) : unwrapped (key, x) = some (key, v) := by
  cases written with
  | plain simple =>
    cases v with
    | map entries => exact absurd rfl (simple entries)
    | _ => rfl
  | wrapped default => exact congrArg (Option.map (key, ·)) default

/-- The place of a field in a settings file: the section, the name, and all that stands around it. -/
structure FieldPlace where
  area : Section
  field : Value
  fieldsBefore : Entries
  fieldsAfter : Entries
  sectionsBefore : Entries
  sectionsAfter : Entries
  optionsBefore : Entries
  optionsAfter : Entries

namespace FieldPlace

variable (place : FieldPlace)

/-- The section with a value in the place. -/
def fields (x : Value) : Value := .map (place.fieldsBefore ++ (place.field, x) :: place.fieldsAfter)

/-- The options with a value in the place. -/
def options (x : Value) : Value :=
  .map (place.sectionsBefore ++ (.text place.area.name, place.fields x) :: place.sectionsAfter)

/-- The document with a value in the place. -/
def document (x : Value) : Value :=
  .map (place.optionsBefore ++ (.text "runtime_options", place.options x) :: place.optionsAfter)

/-- However the value of a field is written, the section is checked with the value itself. -/
theorem sectionEntries_fields (written : v.Written x) : sectionEntries (place.fields x) =
    .ok (place.fieldsBefore.filterMap unwrapped ++ (place.field, v) :: place.fieldsAfter.filterMap unwrapped) := by
  simp [sectionEntries, fields, Value.isBlank, unwrapped_written written]

theorem sectionsOf_options (first : v.Written x) (second : v.Written y) (areas : List Section) :
    sectionsOf (place.options x) areas = sectionsOf (place.options y) areas := by
  induction areas with
  | nil => rfl
  | cons area rest ih =>
    have found : ((place.options x).get? area.name).map sectionEntries =
        ((place.options y).get? area.name).map sectionEntries :=
      Value.map_lookup?_place ((place.sectionEntries_fields first).trans (place.sectionEntries_fields second).symm) ..
    have named : names (place.options x) area = names (place.options y) area := by
      have some := congrArg Option.isSome found
      rw [Option.isSome_map, Option.isSome_map] at some
      exact congrArg Except.ok some
    have entries := congrArg (Option.getD · (sectionEntries .null)) found
    simp only [Option.getD_map] at entries
    unfold sectionsOf
    rw [named, ih]
    simp only [options] at entries ⊢
    rw [entries]

theorem optionsOf_document (first : v.Written x) (second : v.Written y) (areas : List Section) :
    (optionsOf (place.document x) >>= (sectionsOf · areas)) =
      (optionsOf (place.document y) >>= (sectionsOf · areas)) := by
  have options (z : Value) : optionsOf (place.document z) = .ok ((Value.lookup? (.text "runtime_options")
      (place.optionsBefore ++ (.text "runtime_options", place.options z) :: place.optionsAfter)).getD (.map [])) := by
    simp [optionsOf, document, Value.isBlank]
  have sections := congrArg (Option.getD · (sectionsOf (.map []) areas)) <|
    Value.map_lookup?_place (f := (sectionsOf · areas)) (place.sectionsOf_options first second areas)
      (.text "runtime_options") (.text "runtime_options") place.optionsBefore place.optionsAfter
  simp only [Option.getD_map] at sections
  rw [options x, options y]
  exact sections

end FieldPlace

theorem load_eq_ofDocument {disk : Disk} {path : Path} {content : Content} {document : Value}
    (environment : Environment) (read : disk.read path = .ok content)
    (parsed : Yaml.read (.ofContent content) = .ok document) :
    load disk environment path = ofDocument disk environment path.parent document := by
  simp only [load, Disk.holds_of_read read, fileValue, read, parsed]
  rfl

/-- Two files that differ in how they write the value of a field come to the same settings, or fail in the
same way, in every environment; the section is checked with the value itself under the name of the field. -/
theorem load_written {disk other : Disk} {path : Path} {content written : Content} {place : FieldPlace}
    (home : disk.home = other.home) (read : disk.read path = .ok content)
    (parsed : Yaml.read (.ofContent content) = .ok (place.document x)) (first : v.Written x)
    (otherRead : other.read path = .ok written)
    (otherParsed : Yaml.read (.ofContent written) = .ok (place.document y)) (second : v.Written y)
    (environment : Environment) :
    load disk environment path = load other environment path ∧
      sectionEntries (place.fields x) =
        .ok (place.fieldsBefore.filterMap unwrapped ++
          (place.field, v) :: place.fieldsAfter.filterMap unwrapped) := by
  refine ⟨?_, place.sectionEntries_fields first⟩
  rw [load_eq_ofDocument environment read parsed, load_eq_ofDocument environment otherRead otherParsed]
  have given := place.optionsOf_document first second Section.all
  unfold ofDocument
  rw [← bind_assoc, given, bind_assoc]
  unfold inDirectory anchored Disk.homePath
  rw [home]

/-- A disk with a text as the only file. -/
def diskOf (text : String) : Disk := ⟨[], [(["settings.yaml"], .file (.bytes text.toUTF8))], []⟩

theorem read_diskOf (text : String) : (diskOf text).read ⟨.here, ["settings.yaml"]⟩ = .ok (.bytes text.toUTF8) := rfl

section
open Yaml

/-- The title of the documents, as it is and as a default. -/
theorem load_title :
    let place : FieldPlace := ⟨.page, .text "title", [], [], [], [], [], []⟩
    let plain := "runtime_options:\n  page:\n    title: A\n"
    let wrapped := "runtime_options:\n  page:\n    title:\n      desc: B\n      default: A\n"
    load (diskOf plain) [] ⟨.here, ["settings.yaml"]⟩ = load (diskOf wrapped) [] ⟨.here, ["settings.yaml"]⟩ ∧
      sectionEntries (place.fields (.text "A")) = .ok [(.text "title", .text "A")] := by
  intro place plain wrapped
  have parsed : Yaml.read (.ofContent (.bytes plain.toUTF8)) = .ok (place.document (.text "A")) := by
    have lexed : Token.ofSource (Source.visible { text := Text.unifyNewlines plain.toList }) =
        [.blockMapStart, .key, .scalar "runtime_options".toList true, .value,
          .blockMapStart, .key, .scalar "page".toList true, .value,
          .blockMapStart, .key, .scalar "title".toList true, .value, .scalar "A".toList true,
          .blockEnd, .blockEnd, .blockEnd, .streamEnd] := by decide +kernel
    exact read_of_tokens lexed rfl
  have otherParsed : Yaml.read (.ofContent (.bytes wrapped.toUTF8)) =
      .ok (place.document (.map [(.text "desc", .text "B"), (.text "default", .text "A")])) := by
    have lexed : Token.ofSource (Source.visible { text := Text.unifyNewlines wrapped.toList }) =
        [.blockMapStart, .key, .scalar "runtime_options".toList true, .value,
          .blockMapStart, .key, .scalar "page".toList true, .value,
          .blockMapStart, .key, .scalar "title".toList true, .value,
          .blockMapStart, .key, .scalar "desc".toList true, .value, .scalar "B".toList true,
          .key, .scalar "default".toList true, .value, .scalar "A".toList true,
          .blockEnd, .blockEnd, .blockEnd, .blockEnd, .streamEnd] := by decide +kernel
    exact read_of_tokens lexed rfl
  have home : (diskOf plain).home = (diskOf wrapped).home := rfl
  exact load_written home (read_diskOf plain) parsed (.plain fun entries => nofun) (read_diskOf wrapped)
    otherParsed (.wrapped rfl) []

theorem build_without_environment (given : Entries) : build [] given = (Schema.settingsOf given).toResult := by
  have none : Environment.entries [] = .ok [] := rfl
  simp only [build, none, bind, Except.bind, Entries.overlaid]

/-- The settings that a text gives, if it is the only file and nothing is in the environment. -/
def ofText? (text : String) : Option Settings := (load (diskOf text) [] ⟨.here, ["settings.yaml"]⟩).toOption

theorem ofText?_eq (text : String) : ofText? text =
    (Reading.document (Token.ofSource (Source.visible { text := Text.unifyNewlines text.toList })) >>=
      (fun document => do
        let given ← sectionsOf (← optionsOf document) Section.all
        inDirectory (diskOf text) ⟨.here, []⟩ (← (Schema.settingsOf given).toResult))).toOption := by
  simp only [ofText?, load, Disk.holds_of_read (read_diskOf text), fileValue, read_diskOf, Yaml.read,
    Source.ofContent_toUTF8, ofDocument, build_without_environment]
  rfl

/-- A mapping is not the same plain and as a default: plain, it gives its own default for the value, and one
without a default is lost, with no failure. -/
theorem load_mapping :
    ((ofText? "runtime_options:\n  page:\n    title:\n      default: A\n").map (·.page.title) = some "A" ∧
      ofText? "runtime_options:\n  page:\n    title:\n      default:\n        default: A\n" = none) ∧
    (ofText? "runtime_options:\n  fonts:\n    faces:\n      a: b\n").map (·.fonts.faces) =
        some [("mincho", "ipaexm.ttf"), ("gothic", "ipaexg.ttf")] ∧
      (ofText? "runtime_options:\n  fonts:\n    faces:\n      default:\n        a: b\n").map (·.fonts.faces) =
        some [("a", "b")] := by
  rw [← Option.isNone_iff_eq_none]
  simp only [ofText?_eq]
  refine ⟨⟨?_, ?_⟩, ?_, ?_⟩
  · decide +kernel
  · decide +kernel
  · decide +kernel
  · decide +kernel

end

end Settings

end Rirekisho
