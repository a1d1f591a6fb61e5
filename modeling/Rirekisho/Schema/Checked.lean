import Rirekisho.Fault
import Rirekisho.Value.Basic

namespace Rirekisho

/-- The outcome of a check. -/
inductive Checked (β : Type) where
  | valid (value : β)
  | invalid (problems : List Problem)
  | stopped (failure : Failure)
  deriving Repr

namespace Checked

variable {β γ : Type}

/-- The problems found. -/
def problems : Checked β → List Problem
  | .invalid problems => problems
  | .valid _ | .stopped _ => []

/-- What was found, if there was no problem. -/
def value? : Checked β → Option β
  | .valid x => some x
  | .invalid _ | .stopped _ => none

/-- A value with one problem. -/
def problem (text : String) : Checked β := .invalid [⟨[], text⟩]

/-- The outcome with a function applied to what was found. -/
def map (f : β → γ) : Checked β → Checked γ
  | .valid x => .valid (f x)
  | .invalid problems => .invalid problems
  | .stopped failure => .stopped failure

/-- A function and its argument, both checked: the problems of the function come first. -/
def apply (f : Checked (β → γ)) (x : Checked β) : Checked γ :=
  match f, x with
  | .stopped failure, _ => .stopped failure
  | _, .stopped failure => .stopped failure
  | .valid f, .valid x => .valid (f x)
  | .valid _, .invalid problems => .invalid problems
  | .invalid problems, x => .invalid (problems ++ x.problems)

instance : Applicative Checked where
  map := map
  pure := .valid
  seq f x := apply f (x ())

/-- Checks of parts that leave nothing but their problems, one after the other. -/
def all : List (Checked Unit) → Checked Unit
  | [] => .valid ()
  | check :: rest => (fun _ _ => ()) <$> check <*> all rest

/-- A further check of what was found. -/
def also (x : Checked β) (check : β → Checked γ) : Checked γ :=
  match x with
  | .valid x => check x
  | .invalid problems => .invalid problems
  | .stopped failure => .stopped failure

/-- The outcome as a result, or the failure of all problems together. -/
def toResult : Checked β → Except Failure β
  | .valid x => .ok x
  | .invalid problems => .error (.invalid problems)
  | .stopped failure => .error failure

/-- The outcome for a part, seen from the whole. -/
def within (name : String) : Checked β → Checked β
  | .valid x => .valid x
  | .invalid problems => .invalid (problems.map (·.within name))
  | .stopped failure => .stopped failure

end Checked

/-- The entries of a mapping. -/
abbrev Entries := List (Value × Value)

namespace Entries

variable {β : Type}

/-- A part that has to be there. -/
def required (entries : Entries) (name : String) (check : Value → Checked β) : Checked β :=
  match Value.lookup? (.text name) entries with
  | some v => (check v).within name
  | none => .invalid [⟨[name], "Field required"⟩]

/-- A part that may be left out, with what then holds. -/
def optional (entries : Entries) (name : String) (otherwise : β) (check : Value → Checked β) :
    Checked β :=
  match Value.lookup? (.text name) entries with
  | some v => (check v).within name
  | none => .valid otherwise

end Entries

end Rirekisho
