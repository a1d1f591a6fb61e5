import Rirekisho.CommandLine.Arguments
import Rirekisho.Run
import Rirekisho.Settings.File

namespace Rirekisho.CommandLine

/-- The files that can be given. -/
inductive MakeFile where
  | data
  | script
  | output
  deriving Repr, DecidableEq

/-- The usage of the command: an option for each file, and no words. -/
def makeUsage : Usage MakeFile where
  switches := [⟨'i', "input", .value .data⟩, ⟨'s', "style", .value .script⟩,
    ⟨'o', "output", .value .output⟩]
  words := 0

/-- The name of a file that is not given. -/
def MakeFile.usual : MakeFile → String
  | .data => "data.yaml"
  | .script => "style.txt"
  | .output => "output.pdf"

/-- The files of the run that is asked for. -/
def orderOf (given : Given MakeFile) : Order :=
  let file key := Path.ofText ((given.value? key).getD key.usual)
  ⟨file .data, file .script, file .output⟩

/-- The file of the log made, if there is to be one. Dots in its path are taken back before it is
looked for. -/
def makeLogFile (log : LogSettings) (disk : Disk) : Except Failure Disk :=
  if log.toFile then
    let file := disk.homePath.resolve (Path.ofText log.file)
    (disk.touch file).mapError (.system · file)
  else .ok disk

/-- The rank from which on reports are kept. The name of the level may be in small letters. -/
def logThreshold (log : LogSettings) : Except Failure Nat :=
  let name := String.ofList (Text.upper log.level.toList)
  match Level.threshold? name with
  | some rank => .ok rank
  | none => .error (.unknownLevel name)

/-- What is left of a command: its exit code or the failure that it ends with, what its log keeps,
and the run. -/
structure Ending where
  code : Except Failure Nat
  log : List Report
  run : Run

/-- The exit code of a run: faults are told by the log and lead to one, failures go through. -/
def exitCode : Except Failure Path → Except Failure Nat
  | .ok _ => .ok 0
  | .error (.fault _) => .ok 1
  | .error failure => .error failure

/-- A document made with settings. -/
def makeWith (settings : Settings) (order : Order) (run : Run) : Ending :=
  match makeLogFile settings.log run.disk with
  | .error failure => ⟨.error failure, [], run⟩
  | .ok disk =>
    let run := { run with disk := disk }
    match logThreshold settings.log with
    | .error failure => ⟨.error failure, [], run⟩
    | .ok threshold =>
      let (outcome, run) := (Run.execute settings order).outcome run
      ⟨exitCode outcome, run.reports.reverse.filter (threshold ≤ ·.level.rank), run⟩

/-- A document made with the settings of the settings file and the environment. -/
def make (environment : Environment) (run : Run) (arguments : List String) : Ending :=
  match makeUsage.read arguments with
  | .error refusal => ⟨.ok refusal.code, [], run⟩
  | .ok given =>
    match Settings.load run.disk environment Settings.usualPath with
    | .error failure => ⟨.error failure, [], run⟩
    | .ok settings => makeWith settings (orderOf given) run

end Rirekisho.CommandLine
