import Rirekisho.Outline
import Rirekisho.Script.Reader

namespace Rirekisho.Listing

/-- A text with blanks in front of it up to a width. -/
def padded (width : Nat) (s : String) : String :=
  String.ofList (List.replicate (width - s.length) ' ') ++ s

/-- The line for a command: the number of its line, its kind, and what it asks for. -/
def commandLine (command : Command Float) : String :=
  "第" ++ padded 4 ((command.line.map Numeral.integerText).getD "") ++ "行 " ++
    command.directive.keyword.name ++ ": " ++ (Outline.parts command.directive.outline).line

/-- How many commands have a keyword. -/
def count (commands : List (Command Float)) (keyword : Keyword) : Nat :=
  commands.countP (·.directive.keyword == keyword)

/-- The keywords in the order of their names. -/
def sortedKeywords : List Keyword := Keyword.all.mergeSort fun a b => a.name ≤ b.name

/-- A kind and how often it occurs, if it does. -/
def tally? (commands : List (Command Float)) (keyword : Keyword) : Option String :=
  match count commands keyword with
  | 0 => none
  | n => some (keyword.name ++ "=" ++ Numeral.integerText n)

/-- The line at the end. -/
def summary (commands : List (Command Float)) : String :=
  "共 " ++ Numeral.integerText commands.length ++ " 条命令 (" ++
    ", ".intercalate (sortedKeywords.filterMap (tally? commands)) ++ ")"

/-- The lines of a listing. -/
def lines (commands : List (Command Float)) : List String :=
  commands.map commandLine ++ [summary commands]

end Rirekisho.Listing
