import Rirekisho.CommandLine.Arguments
import Rirekisho.Listing

namespace Rirekisho.CommandLine

/-- The usage of the command: one word, the script. -/
def checkUsage : Usage Empty := ⟨[], 1⟩

/-- What a command prints, line by line, and its exit code. -/
structure Printout where
  code : Nat
  lines : List String
  deriving Repr, DecidableEq

/-- The printout for a fault. Faults of the script are told with its name as it was given. -/
def faultPrintout (script : String) (fault : Located Fault) : Printout :=
  let words := fault.text Fault.message
  ⟨1, [(if fault.cause.family.isScript then script ++ ": " else "ERROR ") ++ words]⟩

/-- A script listed. Without a name it is style.txt. -/
def check (disk : Disk) (arguments : List String) : Except Failure Printout :=
  match checkUsage.read arguments with
  | .error refusal => .ok ⟨refusal.code, []⟩
  | .ok given =>
    let script := given.words.headD "style.txt"
    match Script.load disk (Path.ofText script) with
    | .ok commands => .ok ⟨0, Listing.lines commands⟩
    | .error (.fault fault) => .ok (faultPrintout script fault)
    | .error failure => .error failure

end Rirekisho.CommandLine
