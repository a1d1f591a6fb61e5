import Rirekisho.Proofs.Outcome
import Rirekisho.Proofs.Schema.Record
import Rirekisho.Settings.File

namespace Rirekisho

/-- A field of the settings. -/
inductive SettingsField where
  | width
  | height
  | margin
  | title
  | directory
  | faces
  | photo
  | resolution
  | level
  | toFile
  | file
  deriving DecidableEq

namespace SettingsField

/-- The section of a field. -/
def area : SettingsField → Section
  | .width | .height | .margin | .title => .page
  | .directory | .faces => .fonts
  | .photo | .resolution => .photo
  | .level | .toFile | .file => .log

/-- The name of a field in its section. -/
def name : SettingsField → String
  | .width => "width_mm"
  | .height => "height_mm"
  | .margin => "margin_mm"
  | .title => "title"
  | .directory => "font_dir"
  | .faces => "faces"
  | .photo => "path"
  | .resolution => "dpi"
  | .level => "log_level"
  | .toFile => "log_to_file"
  | .file => "log_file"

/-- What a field holds. -/
abbrev Content : SettingsField → Type
  | .width | .height | .margin | .resolution => Float
  | .title | .level | .file => String
  | .directory | .photo => Path
  | .faces => List (String × String)
  | .toFile => Bool

/-- What a value says when it is the value of a field. -/
def check : (field : SettingsField) → Value → Checked field.Content
  | .width | .height | .margin | .resolution => Schema.number
  | .title | .level | .file => Schema.text
  | .directory | .photo => Schema.path
  | .faces => Schema.faces
  | .toFile => Schema.truth

/-- The content of a field where the settings are seen from a directory. -/
def anchored (disk : Disk) (directory : Path) : (field : SettingsField) → field.Content → Except Failure field.Content
  | .directory, path | .photo, path => Settings.anchored disk directory path
  | .width, x | .height, x | .margin, x | .resolution, x => .ok x
  | .title, s | .level, s | .file, s => .ok s
  | .faces, list => .ok list
  | .toFile, b => .ok b

/-- Every field. -/
def all : List SettingsField :=
  [.width, .height, .margin, .title, .directory, .faces, .photo, .resolution, .level, .toFile, .file]

/-- The fields are those of the sections. -/
theorem fields_eq (area : Section) : area.fields = (all.filter (·.area = area)).map name := by
  cases area <;> rfl

theorem name_mem_fields (field : SettingsField) : field.name ∈ field.area.fields := by cases field <;> decide

end SettingsField

/-- The content of a field in the settings. -/
def Settings.content (settings : Settings) : (field : SettingsField) → field.Content
  | .width => settings.page.width
  | .height => settings.page.height
  | .margin => settings.page.margin
  | .title => settings.page.title
  | .directory => settings.fonts.directory
  | .faces => settings.fonts.faces
  | .photo => settings.photo.path
  | .resolution => settings.photo.resolution
  | .level => settings.log.level
  | .toFile => settings.log.toFile
  | .file => settings.log.file

namespace SettingsField

/-- The usual content of a field. -/
def usual (field : SettingsField) : field.Content := Settings.content {} field

/-- The value under the name of a field among the entries of the settings. -/
def value? (field : SettingsField) (entries : Entries) : Option Value :=
  (Value.lookup? (.text field.area.name) entries).bind (·.get? field.name)

/-- A field holds what its value says, or its usual content without one. -/
def Holds (field : SettingsField) (value : Option Value) (content : field.Content) : Prop :=
  value.elim (.valid field.usual) field.check = .valid content

end SettingsField

namespace Schema

variable {β : Type} {entries : Entries} {settings : Settings}

theorem optional_holds {name : String} {usual content : β} {check : Value → Checked β} :
    entries.optional name usual check = .valid content ↔
      (Value.lookup? (.text name) entries).elim (.valid usual) check = .valid content := by
  unfold Entries.optional
  cases Value.lookup? (.text name) entries with
  | none => exact Iff.rfl
  | some v => exact Checked.within_eq_valid

/-- A section is a mapping, or it is left out and is as if it were empty. -/
theorem section_holds {name model : String} {usual content : β} {check : Entries → Checked β}
    (checked : entries.optional name usual (entriesOf model check) = .valid content)
    (empty : check [] = .valid usual) :
    ∃ inner, (Value.lookup? (.text name) entries).getD (.map []) = .map inner ∧ check inner = .valid content := by
  have held := optional_holds.mp checked
  cases found : Value.lookup? (.text name) entries with
  | none =>
    rw [found] at held
    exact ⟨[], rfl, empty.trans held⟩
  | some v =>
    rw [found] at held
    cases v with
    | map inner => exact ⟨inner, rfl, held⟩
    | _ => cases held

theorem settingsOf_eq_valid (checked : settingsOf entries = .valid settings) :
    entries.optional Section.page.name {} (entriesOf "PageConfig" pageOf) = .valid settings.page ∧
      entries.optional Section.fonts.name {} (entriesOf "FontConfig" fontsOf) = .valid settings.fonts ∧
      entries.optional Section.photo.name {} (entriesOf "PhotoConfig" photoOf) = .valid settings.photo ∧
      entries.optional Section.log.name {} (entriesOf "LoggingConfig" logOf) = .valid settings.log := by
  unfold settingsOf at checked
  dsimp only at checked
  split at checked
  · simp only [Checked.seq_eq_valid, Checked.map_eq_valid] at checked
    obtain ⟨_, log, ⟨_, photo, ⟨_, fonts, ⟨page, paged, rfl⟩, registered, rfl⟩, framed, rfl⟩, logged, rfl⟩ := checked
    exact ⟨paged, registered, framed, logged⟩
  · obtain ⟨_, _, _, strange, _⟩ := Checked.seq_eq_valid.mp checked
    cases strange

/-- The fields of a valid section hold what the section says. -/
def FieldsHold (entries : Entries) (settings : Settings) (area : Section) : Prop :=
  ∀ field : SettingsField, field.area = area →
    field.Holds (Value.lookup? (.text field.name) entries) (settings.content field)

theorem pageOf_holds (checked : pageOf entries = .valid settings.page) : FieldsHold entries settings .page := by
  simp only [pageOf, Checked.seq_eq_valid, Checked.map_eq_valid, optional_holds] at checked
  obtain ⟨_, title, ⟨_, margin, ⟨_, height, ⟨width, first, rfl⟩, second, rfl⟩, third, rfl⟩, fourth, same⟩ := checked
  intro field within
  rcases settings with ⟨page, _⟩
  cases same
  cases field with
  | width => exact first
  | height => exact second
  | margin => exact third
  | title => exact fourth
  | _ => cases within

theorem fontsOf_holds (checked : fontsOf entries = .valid settings.fonts) : FieldsHold entries settings .fonts := by
  simp only [fontsOf, Checked.seq_eq_valid, Checked.map_eq_valid, optional_holds] at checked
  obtain ⟨_, faces, ⟨directory, first, rfl⟩, second, same⟩ := checked
  intro field within
  rcases settings with ⟨_, fonts, _⟩
  cases same
  cases field with
  | directory => exact first
  | faces => exact second
  | _ => cases within

theorem photoOf_holds (checked : photoOf entries = .valid settings.photo) : FieldsHold entries settings .photo := by
  simp only [photoOf, Checked.seq_eq_valid, Checked.map_eq_valid, optional_holds] at checked
  obtain ⟨_, resolution, ⟨path, first, rfl⟩, second, same⟩ := checked
  intro field within
  rcases settings with ⟨_, _, photo, _⟩
  cases same
  cases field with
  | photo => exact first
  | resolution => exact second
  | _ => cases within

theorem logOf_holds (checked : logOf entries = .valid settings.log) : FieldsHold entries settings .log := by
  simp only [logOf, Checked.seq_eq_valid, Checked.map_eq_valid, optional_holds] at checked
  obtain ⟨_, file, ⟨_, toFile, ⟨level, first, rfl⟩, second, rfl⟩, third, same⟩ := checked
  intro field within
  rcases settings with ⟨_, _, _, log⟩
  cases same
  cases field with
  | level => exact first
  | toFile => exact second
  | file => exact third
  | _ => cases within

/-- Each section of valid settings is a mapping or left out, and its fields hold what it says. -/
theorem settingsOf_holds (checked : settingsOf entries = .valid settings) (area : Section) :
    ∃ inner, (Value.lookup? (.text area.name) entries).getD (.map []) = .map inner ∧
      FieldsHold inner settings area := by
  obtain ⟨paged, registered, framed, logged⟩ := settingsOf_eq_valid checked
  cases area with
  | page => exact (section_holds paged rfl).imp fun _ held => held.imp_right pageOf_holds
  | fonts => exact (section_holds registered rfl).imp fun _ held => held.imp_right fontsOf_holds
  | photo => exact (section_holds framed rfl).imp fun _ held => held.imp_right photoOf_holds
  | log => exact (section_holds logged rfl).imp fun _ held => held.imp_right logOf_holds

end Schema

namespace SettingsField

variable {field : SettingsField} {entries inner : Entries} {settings : Settings}

theorem value?_of_section (found : (Value.lookup? (.text field.area.name) entries).getD (.map []) = .map inner) :
    field.value? entries = Value.lookup? (.text field.name) inner := by
  unfold value?
  cases held : Value.lookup? (.text field.area.name) entries with
  | none =>
    rw [held] at found
    cases found
    rfl
  | some v =>
    rw [held] at found
    cases found
    rfl

/-- Every field of valid settings holds what its value says. -/
theorem holds_of_valid (checked : Schema.settingsOf entries = .valid settings) (field : SettingsField) :
    field.Holds (field.value? entries) (settings.content field) := by
  obtain ⟨inner, found, held⟩ := Schema.settingsOf_holds checked field.area
  rw [value?_of_section found]
  exact held field rfl

/-- In settings that are seen from a directory every field is. -/
theorem anchored_of_inDirectory {disk : Disk} {directory : Path} {seen : Settings}
    (moved : Settings.inDirectory disk directory settings = .ok seen) (field : SettingsField) :
    field.anchored disk directory (settings.content field) = .ok (seen.content field) := by
  obtain ⟨fontsAt, fonts, rest⟩ := result_bind_eq_ok.mp moved
  obtain ⟨photoAt, photo, rest⟩ := result_bind_eq_ok.mp rest
  cases rest
  cases field with
  | directory => exact fonts
  | photo => exact photo
  | _ => rfl

end SettingsField

end Rirekisho
