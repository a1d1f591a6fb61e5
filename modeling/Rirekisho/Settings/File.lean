import Rirekisho.Settings.Environment
import Rirekisho.Storage.TextFile
import Rirekisho.Yaml.Document

namespace Rirekisho

namespace Settings

/-- The settings file, where none is given. -/
def usualPath : Path := Path.ofText "config/runtime.yaml"

/-- The entry of a field, unwrapped: of a mapping only the default counts. -/
def unwrapped : Value × Value → Option (Value × Value)
  | (key, .map inner) => (Value.lookup? (.text "default") inner).map (key, ·)
  | entry => some entry

/-- The entries of a section in a file. An empty section has none. -/
def sectionEntries (value : Value) : Except Failure Entries :=
  if value.isBlank then .ok []
  else
    match value with
    | .map entries => .ok (entries.filterMap unwrapped)
    | _ => .error .notMapping

/-- A text occurs in another. -/
def occursIn (s : List Char) : List Char → Bool
  | [] => s.isEmpty
  | c :: t => s.isPrefixOf (c :: t) || occursIn s t

/-- The options name a section. A list may name it, and so may a text; what holds no names at all
cannot be asked. -/
def names (options : Value) (area : Section) : Except Failure Bool :=
  match options with
  | .map entries => .ok (Value.lookup? (.text area.name) entries).isSome
  | .list items | .set items => .ok (items.any (Value.sameKey (.text area.name)))
  | .text s => .ok (occursIn area.name.toList s.toList)
  | _ => .error .notContainer

/-- The sections that the options name, with their entries. -/
def sectionsOf (options : Value) : List Section → Except Failure Entries
  | [] => .ok []
  | area :: rest => do
    if ← names options area then
      match options with
      | .map _ =>
        let entries ← sectionEntries ((options.get? area.name).getD .null)
        return (.text area.name, .map entries) :: (← sectionsOf options rest)
      | _ => throw .notMapping
    else sectionsOf options rest

/-- The options of a file: those under their key, or none. -/
def optionsOf (document : Value) : Except Failure Value :=
  if document.isBlank then .ok (.map [])
  else
    match document with
    | .map entries => .ok ((Value.lookup? (.text "runtime_options") entries).getD (.map []))
    | _ => .error .notMapping

/-- A path seen from a directory, unless it is absolute. -/
def anchored (disk : Disk) (directory path : Path) : Except Failure Path :=
  if path.isAbsolute then .ok path
  else
    let found := disk.homePath.resolve (directory.join path)
    if found.names.any fun name => name.toList.contains '\x00' then
      .error (.system .nullInName found)
    else .ok found

/-- The settings with their relative paths seen from a directory. -/
def inDirectory (disk : Disk) (directory : Path) (settings : Settings) : Except Failure Settings := do
  let fonts ← anchored disk directory settings.fonts.directory
  let photo ← anchored disk directory settings.photo.path
  return { settings with
    fonts := { settings.fonts with directory := fonts }
    photo := { settings.photo with path := photo } }

/-- The value of a settings file. -/
def fileValue (disk : Disk) (path : Path) : Except Failure Value :=
  match disk.read path with
  | .error reason => .error (.system reason path)
  | .ok content => Yaml.read (Yaml.Source.ofContent content)

/-- The settings of a document that stands in a directory, and of the environment. -/
def ofDocument (disk : Disk) (env : Environment) (directory : Path) (document : Value) :
    Except Failure Settings := do
  let given ← sectionsOf (← optionsOf document) Section.all
  inDirectory disk directory (← build env given)

/-- The settings of a file and the environment. Without the file, those of the environment. -/
def load (disk : Disk) (env : Environment) (path : Path) : Except Failure Settings := do
  if ← (disk.holds path).mapError (.system · path) then
    ofDocument disk env path.parent (← fileValue disk path)
  else build env []

end Settings

end Rirekisho
