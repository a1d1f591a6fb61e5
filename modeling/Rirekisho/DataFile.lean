import Rirekisho.Schema.Model
import Rirekisho.Storage.TextFile
import Rirekisho.Yaml.Document

namespace Rirekisho

namespace DataFile

/-- The name of the data file, where none is given. -/
def usualPath : Path := Path.ofText "data.yaml"

/-- The source of a data file. -/
def source (disk : Disk) (path : Path) : Except Failure Yaml.Source :=
  match disk.read path with
  | .error .nullInName => .error (.system .nullInName path)
  | .error reason => .error (Fault.unreadableData path reason).toFailure
  | .ok content => .ok (Yaml.Source.ofContent content)

/-- The value of a data file. -/
def value (path : Path) (source : Yaml.Source) : Except Failure Value :=
  match Yaml.read source with
  | .error (.badDocument reason) => .error (Fault.dataFormat path reason).toFailure
  | outcome => outcome

/-- The key of an entry is a text. -/
def hasTextKey : Value × Value → Bool
  | (.text _, _) => true
  | _ => false

/-- The record that a value stands for. -/
def recordOf (path : Path) (value : Value) : Except Failure Record :=
  match value with
  | .map entries =>
    if entries.all hasTextKey then
      match Schema.recordOf entries with
      | .valid record => .ok record
      | .invalid problems => .error (Fault.dataFields path problems).toFailure
      | .stopped failure => .error failure
    else .error .keyNotText
  | _ => .error (Fault.dataNotMapping path).toFailure

/-- The record in a data file. -/
def load (disk : Disk) (path : Path) : Except Failure Record := do
  recordOf path (← value path (← source disk path))

end DataFile

end Rirekisho
