import Rirekisho.Storage.Disk

namespace Rirekisho

/-- The text of a file. Images, fonts and finished documents have none. -/
def Content.text? : Content → Option String
  | .bytes data =>
    (String.fromUTF8? data).map fun s => String.ofList (Text.unifyNewlines s.toList)
  | _ => none

/-- The text without the byte order mark at its front. -/
def dropMark (s : String) : String :=
  match s.toList with
  | '\ufeff' :: rest => String.ofList rest
  | _ => s

end Rirekisho
