import Rirekisho.CommandLine.Check
import Rirekisho.CommandLine.Make
import Rirekisho.Drawing.PageFile
import Rirekisho.Storage.Signature

namespace Rirekisho.Program

/-- What the system has at a path, if anything. -/
def item? (path : Path) : IO (Option Item) := do
  if ← ((← IO.currentDir) / path.text).isDir then return some .directory
  match ← (IO.FS.readBinFile path.text).toBaseIO with
  | .ok data => return some (.file (.ofBytes data))
  | .error _ => return none

/-- The disk with everything on the way along a path, as the system has it. -/
def look (disk : Disk) (path : Path) : IO Disk :=
  (List.range (path.names.length + 1)).foldlM (fun disk count => do
    let place := disk.homePath.resolve { path with names := path.names.take count }
    match disk.item? place.names, ← item? place with
    | none, some item => return disk.put place.names item
    | _, _ => return disk) disk

/-- The disk with nothing on it but the way to the working directory. -/
def bareDisk : IO Disk := do
  return .empty (Path.ofText (← IO.currentDir).toString).names

/-- The environment, one variable after the other. Where the system does not tell it as a file,
there is none. -/
def environment : IO Environment := do
  match ← (IO.FS.readBinFile "/proc/self/environ").toBaseIO with
  | .error _ => return []
  | .ok data =>
    let lines := Text.split '\x00' ((String.fromUTF8? data).getD "").toList
    return (lines.filterMap CommandLine.halves?).map fun (name, value) =>
      (String.ofList name, String.ofList value)

/-- The files that settings lead to. -/
def settingsFiles (settings : Settings) : List Path :=
  settings.photo.path :: Path.ofText settings.log.file ::
    settings.fonts.registry.faces.map (·.2)

/-- A time in seconds, with two places, and its unit. -/
def seconds (milliseconds : Nat) : String :=
  let hundredths := (milliseconds + 5) / 10
  toString (hundredths / 100) ++ "." ++ toString (hundredths / 10 % 10) ++
    toString (hundredths % 10) ++ "s"

/-- The log of a run told, and kept in the file that the settings name for it. -/
def tell (settings : Settings) (lines : List String) : IO Unit := do
  lines.forM fun line => IO.eprintln line
  if settings.log.toFile then
    let file ← IO.FS.Handle.mk settings.log.file .append
    lines.forM fun line => file.putStrLn line

/-- The documents that a run has left on its disk, written. -/
def writeDocuments (run : Run) : IO Unit :=
  run.disk.items.forM fun
    | (place, .file .document) =>
      IO.FS.writeFile (Path.mk .root place).text (PageFile.ofCalls run.calls.reverse)
    | _ => pure ()

/-- The exit code of what has ended. A failure that is no fault is told in one line. -/
def leave : Except Failure Nat → IO UInt32
  | .ok code => return code.toUInt32
  | .error failure => do
    IO.eprintln s!"failed: {repr failure}"
    return 1

/-- The way to call the program. -/
def usage : String := "usage: rirekisho [-h] [-i DATA] [-s SCRIPT] [-o OUTPUT]
       rirekisho check [-h] [SCRIPT]"

/-- A document made. -/
def make (arguments : List String) : IO UInt32 := do
  let started ← IO.monoMsNow
  match CommandLine.makeUsage.read arguments with
  | .error refusal =>
    IO.eprintln usage
    return refusal.code.toUInt32
  | .ok given =>
    let order := CommandLine.orderOf given
    let environment ← environment
    let disk ← look (← bareDisk) Settings.usualPath
    let settings := (Settings.load disk environment Settings.usualPath).toOption.getD {}
    let files := [order.data, order.script, order.output.parent] ++ settingsFiles settings
    let ending := CommandLine.make environment ⟨← files.foldlM look disk, PageFile.typecase, [], []⟩
      arguments
    let elapsed := seconds ((← IO.monoMsNow) - started)
    tell settings (ending.log.map (·.line elapsed))
    writeDocuments ending.run
    leave ending.code

/-- A script listed. -/
def check (arguments : List String) : IO UInt32 := do
  let files := arguments.map Path.ofText ++ [Path.ofText "style.txt"]
  match CommandLine.check (← files.foldlM look (← bareDisk)) arguments with
  | .error failure => leave (.error failure)
  | .ok printout =>
    printout.lines.forM fun line => IO.println line
    return printout.code.toUInt32

end Rirekisho.Program

/-- The program. -/
def main (arguments : List String) : IO UInt32 :=
  match arguments with
  | "check" :: rest => Rirekisho.Program.check rest
  | _ => Rirekisho.Program.make arguments
