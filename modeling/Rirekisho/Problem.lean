namespace Rirekisho

/-- A problem of a value, and where in it. -/
structure Problem where
  place : List String
  text : String
  deriving Repr, DecidableEq

namespace Problem

/-- The place, with points between its parts. -/
def placeText (p : Problem) : String := ".".intercalate p.place

/-- The problem, as one line says it. -/
def line (p : Problem) : String := p.placeText ++ ": " ++ p.text

/-- The problem of a part, seen from the whole. -/
def within (name : String) (p : Problem) : Problem := { p with place := name :: p.place }

end Problem

end Rirekisho
