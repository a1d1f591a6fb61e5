import Rirekisho.Settings.File

namespace Rirekisho

/-- Settings as they have been made, told apart by their number. -/
structure Made where
  number : Nat
  settings : Settings

/-- What settings depend on and what has been made of them. -/
structure Session where
  disk : Disk
  environment : Environment
  kept : Option Made
  count : Nat

namespace Session

/-- A session in which nothing has been made yet. -/
def start (disk : Disk) (environment : Environment) : Session := ⟨disk, environment, none, 0⟩

/-- What can be done with settings. -/
inductive Step where
  /-- Settings from given entries. -/
  | build (given : Entries)
  /-- Settings from a file. -/
  | load (path : Path)
  /-- The settings that are kept. -/
  | get
  /-- Settings from a file, kept from now on. -/
  | reload (path : Option Path)

/-- The outcome of making settings: they get the next number. -/
def make (session : Session) (outcome : Except Failure Settings) :
    Except Failure Made × Session :=
  match outcome with
  | .ok settings =>
    (.ok ⟨session.count, settings⟩, { session with count := session.count + 1 })
  | .error e => (.error e, session)

/-- Settings made and kept. -/
def makeKept (session : Session) (outcome : Except Failure Settings) :
    Except Failure Made × Session :=
  match session.make outcome with
  | (.ok made, session) => (.ok made, { session with kept := some made })
  | (.error e, session) => (.error e, session)

/-- The settings of a file as it is now. -/
def settingsAt (session : Session) (path : Path) : Except Failure Settings :=
  Settings.load session.disk session.environment path

/-- One step: its outcome, and the session after it. -/
def step (session : Session) : Step → Except Failure Made × Session
  | .build given => session.make (Settings.build session.environment given)
  | .load path => session.make (session.settingsAt path)
  | .get =>
    match session.kept with
    | some made => (.ok made, session)
    | none => session.makeKept (session.settingsAt Settings.usualPath)
  | .reload path => session.makeKept (session.settingsAt (path.getD Settings.usualPath))

end Session

end Rirekisho
