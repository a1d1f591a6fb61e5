import Rirekisho.Storage.Path
import Rirekisho.Text.Quoted

namespace Rirekisho

/-- Why the system refuses a file. -/
inductive SystemFault where
  | missing
  | notDirectory
  | isDirectory
  | nameTooLong
  | denied
  /-- No file can have a name with a null character in it. -/
  | nullInName
  deriving Repr, DecidableEq

/-- The system's words on the file with the given path. -/
def SystemFault.text (path : String) : SystemFault → String
  | .missing => "[Errno 2] No such file or directory: " ++ Text.quoted path
  | .notDirectory => "[Errno 20] Not a directory: " ++ Text.quoted path
  | .isDirectory => "[Errno 21] Is a directory: " ++ Text.quoted path
  | .nameTooLong => "[Errno 36] File name too long: " ++ Text.quoted path
  | .denied => "[Errno 13] Permission denied: " ++ Text.quoted path
  | .nullInName => "embedded null byte"

/-- What a file holds, as far as it matters here. Of an image only the size in pixels does. -/
inductive Content where
  | bytes (data : ByteArray)
  | image (width height : Nat)
  | font
  | document

/-- What a path can lead to. -/
inductive Item where
  | directory
  | file (content : Content)

/-- The files, with the working directory of the run. -/
structure Disk where
  home : List String
  items : List (List String × Item)
  /-- The places that the run has no right to: directories that no way leads through, and files that
  it may neither read nor write. That they are there can be seen from the directory above. -/
  barred : List (List String) := []

namespace Disk

/-- The path of the working directory. -/
def homePath (disk : Disk) : Path := ⟨.root, disk.home⟩

/-- What stands at a place. The way to the working directory consists of directories. -/
def item? (disk : Disk) (place : List String) : Option Item :=
  if place.isPrefixOf disk.home then some .directory
  else (disk.items.find? (·.1 == place)).map (·.2)

/-- The most bytes of a name. -/
def nameLimit : Nat := 255

/-- The most bytes of a path. -/
def pathLimit : Nat := 4095

/-- The place that names lead to from a place, through directories only. -/
def walk (disk : Disk) (place : List String) : List String → Except SystemFault (List String)
  | [] => .ok place
  | name :: rest =>
    match disk.item? place with
    | none => .error .missing
    | some (.file _) => .error .notDirectory
    | some .directory =>
      if disk.barred.contains place then .error .denied
      else if nameLimit < name.utf8ByteSize then .error .nameTooLong
      else disk.walk (if name = ".." then place.dropLast else place ++ [name]) rest

/-- The place that a path leads to. -/
def locate (disk : Disk) (path : Path) : Except SystemFault (List String) :=
  if path.names.any fun name => name.toList.contains '\x00' then .error .nullInName
  else if pathLimit < path.text.utf8ByteSize then .error .nameTooLong
  else disk.walk (if path.isAbsolute then [] else disk.home) path.names

/-- What a path leads to. -/
def find (disk : Disk) (path : Path) : Except SystemFault Item := do
  match disk.item? (← disk.locate path) with
  | none => .error .missing
  | some item => .ok item

/-- The path leads to a file or a directory. This cannot be told of a name that is too long, or where
no way leads. -/
def holds (disk : Disk) (path : Path) : Except SystemFault Bool :=
  match disk.find path with
  | .ok _ => .ok true
  | .error .nameTooLong => .error .nameTooLong
  | .error .denied => .error .denied
  | .error _ => .ok false

/-- What the file at a path holds. -/
def read (disk : Disk) (path : Path) : Except SystemFault Content := do
  let place ← disk.locate path
  match disk.item? place with
  | none => .error .missing
  | some item =>
    if disk.barred.contains place then .error .denied
    else
      match item with
      | .directory => .error .isDirectory
      | .file content => .ok content

/-- The disk with an item put at a place. -/
def put (disk : Disk) (place : List String) (item : Item) : Disk :=
  { disk with items := disk.items.filter (·.1 != place) ++ [(place, item)] }

/-- The disk with the content written to a path, whose directory has to exist. -/
def write (disk : Disk) (path : Path) (content : Content) : Except SystemFault Disk := do
  let place ← disk.locate path
  match disk.item? place with
  | some .directory => .error .isDirectory
  | some (.file _) =>
    if disk.barred.contains place then .error .denied
    else .ok (disk.put place (.file content))
  | none => .ok (disk.put place (.file content))

/-- The disk with a file made at a path if there is none. -/
def touch (disk : Disk) (path : Path) : Except SystemFault Disk := do
  let place ← disk.locate path
  match disk.item? place with
  | some .directory => .error .isDirectory
  | some (.file _) => if disk.barred.contains place then .error .denied else .ok disk
  | none => .ok (disk.put place (.file (.bytes ⟨#[]⟩)))

/-- The proper beginnings of a list that are not empty, shortest first. -/
def ancestors (place : List String) : List (List String) :=
  (List.range place.length).tail.map place.take

/-- The disk with an item at a path, and with the directories on the way to it. -/
def install (disk : Disk) (path : Path) (item : Item) : Disk :=
  let place := (disk.homePath.resolve path).names
  let withParents := (ancestors place).foldl (fun d above =>
    match d.item? above with
    | some _ => d
    | none => d.put above .directory) disk
  withParents.put place item

/-- The disk without files, with a working directory. -/
def empty (home : List String) : Disk := { home := home, items := [] }

end Disk

end Rirekisho
