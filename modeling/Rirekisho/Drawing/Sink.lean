import Rirekisho.Log
import Rirekisho.Options

namespace Rirekisho

/-- A computation on a state that may fail, and then keeps what it has done. -/
abbrev Act (σ β : Type) := ExceptT Failure (StateM σ) β

namespace Act

variable {σ β : Type}

/-- The outcome and the last state of a computation. -/
def outcome (act : Act σ β) (s : σ) : Except Failure β × σ := (ExceptT.run act).run s

/-- A computation that has the result, or fails. -/
def ofResult (e : Except Failure β) : Act σ β :=
  match e with
  | .ok x => pure x
  | .error failure => throw failure

/-- A computation that has the result, or fails with the fault. -/
def ofFault (e : Except Fault β) : Act σ β :=
  match e with
  | .ok x => pure x
  | .error fault => throw fault.toFailure

/-- A computation whose faults are told with a line and a keyword. -/
def located (line : Option Int) (keyword : Option String) (act : Act σ β) : Act σ β :=
  tryCatch act fun failure => throw (failure.locate line keyword)

end Act

/-- The operations of a sink. All lengths are millimetres, but type sizes and line widths, which are
points. -/
structure Sink (α σ : Type) where
  /-- A new page, with its number. -/
  newPage : Act σ Nat
  /-- A line of text from the left end of its base line. -/
  drawText (page : Nat) (text : String) (origin : Point α) (face : String) (size : α) : Act σ Unit
  /-- Lines from point to point. -/
  drawPolyline (page : Nat) (points : List (Point α)) (closed : Bool) (options : LineOptions α) :
    Act σ Unit
  /-- An image with its lower left corner at a point, its natural size scaled. -/
  drawImage (page : Nat) (path : Path) (origin : Point α) (natural : Size α) (scaleX scaleY : α) :
    Act σ Unit
  /-- The width of a text. -/
  stringWidth (text face : String) (size : α) : Act σ α
  /-- The natural size of an image. -/
  imageSize (path : Path) : Act σ (Size α)
  /-- The drawing finished, with the path that it went to. -/
  save : Act σ Path
  /-- A report taken down. -/
  report (report : Report) : Act σ Unit

end Rirekisho
