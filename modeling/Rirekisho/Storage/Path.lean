import Rirekisho.Text.Line

namespace Rirekisho

/-- Where a path starts: at the working directory, at the root, or at the second root that exactly
two slashes name. -/
inductive Anchor where
  | here
  | root
  | secondRoot
  deriving Repr, DecidableEq

/-- The slashes that an anchor is written with. -/
def Anchor.text : Anchor → String
  | .here => ""
  | .root => "/"
  | .secondRoot => "//"

/-- A path of a file or directory. -/
structure Path where
  anchor : Anchor
  names : List String
  deriving Repr, DecidableEq

namespace Path

/-- The anchor of a written path. Three slashes and more are as good as one. -/
def anchorOf : List Char → Anchor
  | '/' :: '/' :: '/' :: _ => .root
  | '/' :: '/' :: _ => .secondRoot
  | '/' :: _ => .root
  | _ => .here

/-- The path with the given text. -/
def ofText (s : String) : Path :=
  { anchor := anchorOf s.toList
    names := ((Text.split '/' s.toList).filter fun name => name ≠ [] ∧ name ≠ ['.']).map
      String.ofList }

/-- The path as it is written: the empty relative path is a dot. -/
def text (p : Path) : String :=
  match p.anchor, p.names with
  | .here, [] => "."
  | anchor, names => anchor.text ++ "/".intercalate names

/-- The path does not depend on the working directory. -/
def isAbsolute (p : Path) : Bool := p.anchor != .here

/-- The second path seen from the first, which an absolute one does not need. -/
def join (p q : Path) : Path :=
  if q.isAbsolute then q else { p with names := p.names ++ q.names }

/-- The directory that holds the file. -/
def parent (p : Path) : Path := { p with names := p.names.dropLast }

/-- The names with every pair of dots taken back together with the name before it. -/
def collapse (names : List String) : List String :=
  names.foldl (fun done name => if name = ".." then done.dropLast else done ++ [name]) []

/-- The absolute path of a file, seen from a directory with an absolute path, without dots. -/
def resolve (base p : Path) : Path :=
  { anchor := .root, names := collapse (base.join p).names }

example : (ofText "a//b/./c/").text = "a/b/c" := by decide +kernel
example : (ofText "").text = "." ∧ (ofText "//x").text = "//x" ∧ (ofText "///x").text = "/x" := by
  decide +kernel
example : ((ofText "/w").resolve (ofText "config/../../up")).text = "/up" := by decide +kernel

end Path

end Rirekisho
