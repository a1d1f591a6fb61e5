import Rirekisho.Numeral.Literal
import Rirekisho.Numeral.Shortest
import Rirekisho.Text.Quoted
import Rirekisho.Value.Basic

namespace Rirekisho

/-- Bytes between quotes: the printable ones of ASCII as they are. -/
def quotedBytes (data : List UInt8) : String :=
  let cs := data.map fun b => Char.ofNat b.toNat
  let quote := Text.quoteFor cs
  String.ofList ('b' :: quote :: cs.flatMap (fun c =>
    if c.toNat < 0x7f then Text.escape quote c else '\\' :: 'x' :: Text.hex 2 c.toNat) ++ [quote])

/-- The name of a key. An integer with too many digits has none. -/
def Value.label : Value → String
  | .null => "None"
  | .bool b => if b then "1" else "0"
  | .int n =>
    if Numeral.integerDigitLimit < (Nat.toDigits 10 n.natAbs).length then "<unprintable int object>"
    else Numeral.integerText n
  | .float x => Numeral.floatText x
  | .text s => s
  | .time s => s
  | .bytes data => quotedBytes data
  | _ => ""

end Rirekisho
