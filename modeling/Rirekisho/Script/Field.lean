import Rirekisho.Fault
import Rirekisho.Options
import Rirekisho.Text.Blank

namespace Rirekisho.Script

/-- The character can begin the key of an option. -/
def isKeyStart (c : Char) : Bool :=
  ('A' ≤ c && c ≤ 'Z') || ('a' ≤ c && c ≤ 'z') || c == '_'

/-- The character can stand in the key of an option. -/
def isKeyPart (c : Char) : Bool := isKeyStart c || ('0' ≤ c && c ≤ '9')

/-- The key and the value of an option: a key, an equals sign, and a value on one line. -/
def option? (field : List Char) : Option (List Char × List Char) :=
  match field.takeWhile isKeyPart, field.dropWhile isKeyPart with
  | c :: key, '=' :: value =>
    if isKeyStart c && !value.contains '\n' then some (c :: key, Text.strip value) else none
  | _, _ => none

/-- The field, without the blanks around it, has the form of an option. -/
def isOption (field : List Char) : Bool := (option? (Text.strip field)).isSome

/-- The fields of a line after its keyword. -/
structure Fields where
  positional : List (List Char)
  options : List (List Char × List Char)
  deriving Repr, DecidableEq

namespace Fields

/-- The fields before the first option, and the options. -/
def ofList (fields : List (List Char)) : Fields :=
  { positional := fields.takeWhile (!isOption ·)
    options := (fields.dropWhile (!isOption ·)).filterMap option? }

/-- The last value of an option. -/
def last? (fields : Fields) (key : String) : Option (List Char) :=
  (fields.options.reverse.find? (·.1 == key.toList)).map (·.2)

end Fields

/-- What is wrong with a field, and its name. -/
structure FieldFault where
  fault : Fault
  field : String
  deriving Repr, DecidableEq

/-- The text of a length without the unit that may follow it. -/
def lengthDigits (raw : List Char) : List Char :=
  let text := Text.strip raw
  if ['m', 'm'].isSuffixOf text then Text.strip (text.take (text.length - 2)) else text

/-- A length in millimetres, with its unit or without. -/
def length? (raw : List Char) : Option Float := Numeral.float? Text.digitValue? (lengthDigits raw)

/-- The fault of a field that is not what it should be. -/
def malformed (expected : Expectation) (raw : List Char) : Fault :=
  .malformed expected (String.ofList raw)

/-- A length. -/
def readLength (raw : List Char) : Except Fault Float :=
  match length? raw with
  | some x => .ok x
  | none => .error (malformed .length raw)

/-- An integer that is not negative. -/
def readCount (raw : List Char) : Except Fault Nat :=
  match Numeral.integer? Text.digitValue? raw with
  | none => .error (malformed .integer raw)
  | some n => if n < 0 then .error (malformed .count raw) else .ok n.toNat

/-- A number. -/
def readNumber (raw : List Char) : Except Fault Float :=
  match Numeral.float? Text.digitValue? raw with
  | some x => .ok x
  | none => .error (malformed .number raw)

/-- A word for true or false, in capitals or not. -/
def readTruth (raw : List Char) : Except Fault Bool :=
  let word := String.ofList (raw.map Numeral.lowerAscii)
  if word ∈ ["true", "yes", "1"] then .ok true
  else if word ∈ ["false", "no", "0"] then .ok false
  else .error (malformed .truth raw)

/-- A name of a face: any text but the empty one. -/
def readFace (raw : List Char) : Except Fault String :=
  if raw = [] then .error (malformed .face raw) else .ok (String.ofList raw)

/-- A word for a line style, in capitals or not. -/
def readLineStyle (raw : List Char) : Except Fault LineStyle :=
  match LineStyle.ofName? (String.ofList (raw.map Numeral.lowerAscii)) with
  | some style => .ok style
  | none => .error (malformed .lineStyle raw)

/-- An option that may be left out. -/
def Fields.option {β : Type} (fields : Fields) (key : String)
    (read : List Char → Except Fault β) : Except FieldFault (Option β) :=
  match fields.last? key with
  | none => .ok none
  | some raw =>
    match read raw with
    | .ok x => .ok (some x)
    | .error fault => .error ⟨fault, key⟩

/-- The options for type. The face is read before the size. -/
def Fields.font (fields : Fields) : Except FieldFault (FontOptions Float) := do
  let face ← fields.option "font_face" readFace
  let size ← fields.option "font_size" readNumber
  return ⟨size, face⟩

/-- The options for lines. The style is read before the width. -/
def Fields.line (fields : Fields) : Except FieldFault (LineOptions Float) := do
  let style ← fields.option "line_style" readLineStyle
  let width ← fields.option "line_width" readNumber
  return ⟨width, style⟩

/-- The option that closes a polyline or leaves it open. -/
def Fields.close (fields : Fields) : Except FieldFault (Option Bool) :=
  fields.option "close" readTruth

end Rirekisho.Script
