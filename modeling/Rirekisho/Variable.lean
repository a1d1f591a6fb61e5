import Rirekisho.Fault
import Rirekisho.Record

namespace Rirekisho

namespace Variable

/-- The variable for a text. -/
def ofText (field : TextField) : String := "$" ++ field.label

/-- The variable for a list. -/
def ofList (field : ListField) : String := "$" ++ field.label

/-- The text that a variable stands for. -/
def text? (value : String) : Option TextField := TextField.all.find? (ofText · == value)

/-- The list that a variable stands for. -/
def list? (value : String) : Option ListField := ListField.all.find? (ofList · == value)

/-- The value is meant as a variable. -/
def isVariable (value : String) : Bool := value.toList.head? == some '$'

end Variable

namespace Record

/-- The text for a value of a script: what a variable stands for, or the value itself. -/
def resolveText (record : Record) (value : String) : Except Fault String :=
  if Variable.isVariable value then
    match Variable.text? value with
    | some field => .ok (record.text field)
    | none =>
      match Variable.list? value with
      | some _ => .error (.listAsText value)
      | none => .error (.unknownVariable value)
  else .ok value

/-- The list for a value of a script, which has to be a variable. -/
def resolveList (record : Record) (value : String) : Except Fault (List Entry) :=
  match Variable.list? value with
  | some field => .ok (record.entries field)
  | none =>
    match Variable.text? value with
    | some _ => .error (.textAsList value)
    | none => .error (.noList value)

end Record

end Rirekisho
