import Rirekisho.Fault

namespace Rirekisho

/-- Faces and their files. A face is registered once. -/
structure FontRegistry where
  faces : List (String × Path)
  deriving Repr, DecidableEq

namespace FontRegistry

/-- Faces with one added, or with something new for a face that is among them. -/
def register {β : Type} (name : String) (x : β) : List (String × β) → List (String × β)
  | [] => [(name, x)]
  | (n, y) :: rest => if n = name then (n, x) :: rest else (n, y) :: register name x rest

/-- Faces registered one after the other. -/
def registerAll {β : Type} (faces : List (String × β)) : List (String × β) :=
  faces.foldl (fun done (name, x) => register name x done) []

/-- The registry of faces and their files. -/
def ofList (faces : List (String × Path)) : FontRegistry := ⟨registerAll faces⟩

/-- The names of the faces. -/
def names (fonts : FontRegistry) : List String := fonts.faces.map (·.1)

/-- The face with the given name, if it is registered. -/
def resolve (fonts : FontRegistry) (name : String) : Except Fault String :=
  if name ∈ fonts.names then .ok name else .error (.unregisteredFont name fonts.names)

end FontRegistry

end Rirekisho
