import Rirekisho.Command
import Rirekisho.Script.Field

namespace Rirekisho.Script

/-- What a field holds. -/
inductive FieldKind where
  | length
  | count
  | text
  deriving Repr, DecidableEq

/-- The values of a kind of field. -/
def FieldKind.Value : FieldKind → Type
  | .length => Float
  | .count => Nat
  | .text => String

/-- A field that a command has to have. -/
structure FieldSpec where
  name : String
  kind : FieldKind
  deriving Repr, DecidableEq

/-- A field that holds a length. -/
def lengthField (name : String) : FieldSpec := ⟨name, .length⟩

/-- A field that holds a count. -/
def countField (name : String) : FieldSpec := ⟨name, .count⟩

/-- A field that holds a text. -/
def textField (name : String) : FieldSpec := ⟨name, .text⟩

/-- The fields of each command, in order. Of a polyline it is those before the points. -/
def specs : Keyword → List FieldSpec
  | .string => [lengthField "x", lengthField "y", textField "value"]
  | .line => [lengthField "x1", lengthField "y1", lengthField "x2", lengthField "y2"]
  | .box => [lengthField "x", lengthField "y", lengthField "width", lengthField "height"]
  | .photo => [lengthField "x", lengthField "y", lengthField "width", lengthField "height"]
  | .newPage => []
  | .textBox =>
    [lengthField "x", lengthField "y", lengthField "width", lengthField "height", textField "value"]
  | .multiLines =>
    [lengthField "x", lengthField "y", lengthField "dx", lengthField "dy",
      countField "stroke_number", lengthField "sx", lengthField "sy"]
  | .yearMonthBox =>
    [textField "title", lengthField "height", countField "num", textField "value"]
  | .miscBox => [textField "title", lengthField "y", lengthField "height", textField "value"]
  | .history =>
    [lengthField "y", lengthField "year_x", lengthField "month_x", lengthField "value_x",
      lengthField "padding", textField "value"]
  | .educationExperience =>
    [lengthField "y", lengthField "year_x", lengthField "month_x", lengthField "value_x",
      lengthField "padding", lengthField "caption_x", lengthField "ijo_x"]
  | .polyline => [countField "stroke_number"]

/-- The values of a row of fields. -/
def Row : List FieldSpec → Type
  | [] => Unit
  | spec :: rest => spec.kind.Value × Row rest

/-- The value of a field. -/
def FieldKind.read : (kind : FieldKind) → List Char → Except Fault kind.Value
  | .length, raw => readLength raw
  | .count, raw => readCount raw
  | .text, raw => .ok (String.ofList raw)

/-- The values of a row of fields, read from the left. -/
def readRow : (row : List FieldSpec) → List (List Char) → Except FieldFault (Row row)
  | [], _ => .ok ()
  | spec :: _, [] => .error ⟨.missingField, spec.name⟩
  | spec :: rest, raw :: more =>
    match spec.kind.read raw with
    | .error fault => .error ⟨fault, spec.name⟩
    | .ok value =>
      match readRow rest more with
      | .error e => .error e
      | .ok values => .ok (value, values)

/-- The name of a coordinate of the point with the given number. -/
def coordinateName (axis : String) (n : Nat) : String := axis ++ Numeral.integerText n

/-- The points of a polyline, whose coordinates are named by their numbers from the given one on. -/
def readPoints (n : Nat) : List (List Char) → Except FieldFault (List (Point Float))
  | x :: y :: rest =>
    match readRow [lengthField (coordinateName "x" n), lengthField (coordinateName "y" n)] [x, y] with
    | .error e => .error e
    | .ok (px, py, ()) =>
      match readPoints (n + 1) rest with
      | .error e => .error e
      | .ok points => .ok (⟨px, py⟩ :: points)
  | _ => .ok []

/-- The number of points that a polyline says it has. -/
def declaredCount (fields : Fields) : Except FieldFault Nat := do
  let (count, ()) ← readRow (specs .polyline) fields.positional
  return count

/-- A polyline. Empty fields after the last coordinate do not count. -/
def readPolyline (fields : Fields) : Except FieldFault (Directive Float) := do
  let count ← declaredCount fields
  let coordinates := Text.dropWhileEnd List.isEmpty fields.positional.tail
  if coordinates.length % 2 ≠ 0 then
    throw ⟨.missingField, coordinateName "y" (coordinates.length / 2)⟩
  let points ← readPoints 0 coordinates
  if points.isEmpty then
    throw ⟨.noPoints, "positions"⟩
  if points.length ≠ count then
    throw ⟨.pointCount points.length count, "stroke_number"⟩
  let options ← fields.line
  let close ← fields.close
  return .polyline count points options close

/-- The directive with the given keyword and fields. -/
def readDirective (keyword : Keyword) (fields : Fields) : Except FieldFault (Directive Float) :=
  match keyword with
  | .string => do
    let (x, y, value, ()) ← readRow (specs .string) fields.positional
    return .string ⟨x, y⟩ value (← fields.font)
  | .line => do
    let (x, y, dx, dy, ()) ← readRow (specs .line) fields.positional
    return .line ⟨x, y⟩ ⟨dx, dy⟩ (← fields.line)
  | .box => do
    let (x, y, width, height, ()) ← readRow (specs .box) fields.positional
    return .box ⟨x, y⟩ ⟨width, height⟩ (← fields.line)
  | .photo => do
    let (x, y, width, height, ()) ← readRow (specs .photo) fields.positional
    return .photo ⟨x, y⟩ ⟨width, height⟩
  | .newPage => return .newPage
  | .textBox => do
    let (x, y, width, height, value, ()) ← readRow (specs .textBox) fields.positional
    return .textBox ⟨x, y⟩ ⟨width, height⟩ value (← fields.font)
  | .multiLines => do
    let (x, y, dx, dy, count, sx, sy, ()) ← readRow (specs .multiLines) fields.positional
    return .multiLines ⟨x, y⟩ ⟨dx, dy⟩ count ⟨sx, sy⟩
  | .polyline => readPolyline fields
  | .yearMonthBox => do
    let (title, height, count, value, ()) ← readRow (specs .yearMonthBox) fields.positional
    return .yearMonthBox title height count value
  | .miscBox => do
    let (title, y, height, value, ()) ← readRow (specs .miscBox) fields.positional
    return .miscBox title y height value
  | .history => do
    let (y, yearX, monthX, valueX, padding, value, ()) ←
      readRow (specs .history) fields.positional
    return .history ⟨y, yearX, monthX, valueX, padding⟩ value (← fields.font)
  | .educationExperience => do
    let (y, yearX, monthX, valueX, padding, captionX, endX, ()) ←
      readRow (specs .educationExperience) fields.positional
    return .educationExperience ⟨y, yearX, monthX, valueX, padding⟩ captionX endX (← fields.font)

end Rirekisho.Script
