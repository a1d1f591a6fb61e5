import Rirekisho.Script.Grammar
import Rirekisho.Storage.TextFile

namespace Rirekisho.Script

/-- The command on a line, if it has one. -/
def readLine (number : Int) (line : List Char) :
    Except (Located Fault) (Option (Command Float)) :=
  let stripped := Text.strip line
  if stripped = [] ∨ stripped.head? = some '#' then .ok none
  else
    let fields := (Text.split ',' stripped).map Text.strip
    let word := String.ofList (fields.headD [])
    match Keyword.ofName? word with
    | none => .error ⟨.unknownCommand word, some number, some word, none⟩
    | some keyword =>
      match readDirective keyword (Fields.ofList fields.tail) with
      | .error e => .error ⟨e.fault, some number, some word, some e.field⟩
      | .ok directive => .ok (some ⟨some number, directive⟩)

/-- The commands on lines with numbers from the given one on. -/
def readLines (number : Nat) : List (List Char) → Except (Located Fault) (List (Command Float))
  | [] => .ok []
  | line :: rest =>
    match readLine number line with
    | .error e => .error e
    | .ok command =>
      match readLines (number + 1) rest with
      | .error e => .error e
      | .ok commands => .ok (command.toList ++ commands)

/-- The commands of a script. -/
def read (script : String) : Except (Located Fault) (List (Command Float)) :=
  readLines 1 (Text.lines script.toList)

/-- The text of the script in a file. -/
def fileText (disk : Disk) (path : Path) : Except Failure String :=
  match disk.read path with
  | .error .nullInName => .error (.system .nullInName path)
  | .error reason => .error (Fault.unreadableScript path reason).toFailure
  | .ok content =>
    match content.text? with
    | none => .error .undecodable
    | some text => .ok (dropMark text)

/-- The commands of the script in a file. -/
def load (disk : Disk) (path : Path) : Except Failure (List (Command Float)) := do
  match read (← fileText disk path) with
  | .ok commands => .ok commands
  | .error e => .error (.fault e)

end Rirekisho.Script
