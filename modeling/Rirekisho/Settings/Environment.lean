import Rirekisho.Settings.Basic
import Rirekisho.Text.Case
import Rirekisho.Value.Json

namespace Rirekisho

/-- The variables of an environment, in the order in which they were first set. -/
abbrev Environment := List (String × String)

namespace Environment

/-- The environment with a variable set. A variable that is there already keeps its place. -/
def set (name value : String) : Environment → Environment
  | [] => [(name, value)]
  | (n, v) :: rest => if n = name then (n, value) :: rest else (n, v) :: set name value rest

/-- The environment without a variable. -/
def unset (name : String) (env : Environment) : Environment := env.filter (·.1 != name)

/-- The environment with its names in small letters, each name once. -/
def lowered (env : Environment) : Environment :=
  env.foldl (fun done (name, value) =>
    done.set (String.ofList (Text.lower name.toList)) value) []

/-- The parts of a name between pairs of underscores. -/
def splitName : List Char → List (List Char)
  | [] => [[]]
  | '_' :: '_' :: rest => [] :: splitName rest
  | c :: rest =>
    match splitName rest with
    | [] => [[c]]
    | part :: more => (c :: part) :: more

/-- The variable of a section. -/
def variableOf (area : Section) : String := "yamlcv_" ++ area.name

/-- The keys that a name leads to below a section, if it does. -/
def keysBelow? (area : Section) (name : String) : Option (List String) :=
  let front := (variableOf area ++ "__").toList
  if front.isPrefixOf name.toList then
    some ((splitName (name.toList.drop front.length)).map String.ofList)
  else none

/-- Entries with a value put where keys lead. Something on the way that is no mapping stays. -/
def putAt (value : Value) : List String → Entries → Entries
  | [], entries => entries
  | [key], entries => Value.insert (.text key) value entries
  | key :: rest, entries =>
    match Value.lookup? (.text key) entries with
    | none => Value.insert (.text key) (.map (putAt value rest [])) entries
    | some (.map inner) => Value.insert (.text key) (.map (putAt value rest inner)) entries
    | some _ => entries

/-- The keys lead to all faces at once, which are then written in JSON. -/
def leadToFaces (area : Section) (keys : List String) : Bool :=
  area == .fonts && (keys == ["faces"] || keys == ["yamlcv_faces"])

/-- The value that a variable holds in JSON. -/
def jsonValue (raw : String) : Except Failure Value :=
  match Json.read raw with
  | .ok value => .ok value
  | .error .malformed => .error .badSetting
  | .error .tooDeep => .error .tooDeep

/-- What a variable below a section holds. -/
def valueOf (area : Section) (keys : List String) (raw : String) : Except Failure Value :=
  if leadToFaces area keys && raw != "" then jsonValue raw else .ok (.text raw)

/-- The entries of a section that its parts in the environment make. -/
def parts (area : Section) : Environment → Entries → Except Failure Entries
  | [], entries => .ok entries
  | (name, raw) :: rest, entries =>
    match keysBelow? area name with
    | none => parts area rest entries
    | some keys =>
      match valueOf area keys raw with
      | .error e => .error e
      | .ok value => parts area rest (putAt value keys entries)

end Environment

/-- Entries with others put over them: mappings under one key are put over each other in turn. -/
def Entries.overlaid (under : Entries) : Entries → Entries
  | [] => under
  | (key, .map above) :: rest =>
    match Value.lookup? key under with
    | some (.map inner) => overlaid (Value.insert key (.map (overlaid inner above)) under) rest
    | _ => overlaid (Value.insert key (.map above) under) rest
  | (key, value) :: rest => overlaid (Value.insert key value under) rest

namespace Environment

/-- The entries with the names of a section's fields as the section has them. -/
def spelled (area : Section) (entries : Entries) : Entries :=
  entries.foldl (fun done (key, value) =>
    let key := match key with
      | .text s =>
        let small (s : String) := Text.lower s.toList
        Value.text ((area.fields.find? fun field => small field == small s).getD s)
      | key => key
    Value.insert key value done) []

/-- What an environment with small names says of a section, if it says anything. -/
def sectionValue (env : Environment) (area : Section) : Except Failure (Option Value) :=
  match env.find? (·.1 == variableOf area) with
  | some (_, raw) => do
    match ← jsonValue raw with
    | .null => return none
    | .map entries =>
      let entries := Entries.overlaid entries (← parts area env [])
      return some (.map (spelled area entries))
    | value => return some value
  | none => do
    let entries ← parts area env []
    if entries.isEmpty then return none else return some (.map (spelled area entries))

/-- What an environment says of sections, one after the other. -/
def sections (env : Environment) : List Section → Except Failure Entries
  | [] => .ok []
  | area :: rest => do
    let value ← env.sectionValue area
    let entries ← env.sections rest
    return (value.map fun v => (Value.text area.name, v)).toList ++ entries

/-- What an environment says of the settings. -/
def entries (env : Environment) : Except Failure Entries := env.lowered.sections Section.all

end Environment

namespace Settings

/-- The settings that are given by entries and the environment, which goes first. -/
def build (env : Environment) (given : Entries) : Except Failure Settings := do
  (Schema.settingsOf (given.overlaid (← env.entries))).toResult

end Settings

end Rirekisho
