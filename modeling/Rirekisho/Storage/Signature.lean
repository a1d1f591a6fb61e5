import Rirekisho.Storage.Disk

namespace Rirekisho

/-- The number that bytes make, the highest one first. -/
def bigEndian (bytes : List UInt8) : Nat := bytes.foldl (fun n byte => n * 256 + byte.toNat) 0

namespace Signature

/-- The bytes at the front of a PNG picture. -/
def png : List UInt8 := [137, 80, 78, 71, 13, 10, 26, 10]

/-- The bytes at the front of a JPEG picture. -/
def jpeg : List UInt8 := [0xff, 0xd8]

/-- The bytes at the front of a font with outlines, or of a collection of such fonts. -/
def fonts : List (List UInt8) := [[0, 1, 0, 0], "true".toUTF8.toList, "ttcf".toUTF8.toList]

/-- The size of a PNG picture, which its first chunk begins with. -/
def pngSize (data : List UInt8) : Nat × Nat :=
  (bigEndian ((data.drop 16).take 4), bigEndian ((data.drop 20).take 4))

/-- A segment of a JPEG picture tells the size: it begins a frame. -/
def beginsFrame (mark : UInt8) : Bool :=
  0xc0 ≤ mark && mark ≤ 0xcf && !([0xc4, 0xc8, 0xcc].contains mark)

/-- The size of a JPEG picture, from its segments. Each one says how long it is. -/
def jpegSize? : List UInt8 → Option (Nat × Nat)
  | 0xff :: mark :: high :: low :: rest =>
    if beginsFrame mark then
      some (bigEndian ((rest.drop 3).take 2), bigEndian ((rest.drop 1).take 2))
    else jpegSize? (rest.drop (bigEndian [high, low] - 2))
  | _ => none
termination_by data => data.length
decreasing_by simp only [List.length_cons, List.length_drop]; omega

end Signature

/-- What a file with the given bytes holds. -/
def Content.ofBytes (data : ByteArray) : Content :=
  let bytes := data.toList
  if Signature.png.isPrefixOf bytes then
    let (width, height) := Signature.pngSize bytes
    .image width height
  else if Signature.jpeg.isPrefixOf bytes then
    match Signature.jpegSize? (bytes.drop 2) with
    | some (width, height) => .image width height
    | none => .bytes data
  else if Signature.fonts.any (·.isPrefixOf bytes) then .font
  else .bytes data

example : Signature.jpegSize? [0xff, 0xe0, 0, 3, 7, 0xff, 0xc0, 0, 11, 8, 1, 44, 0, 200] =
    some (200, 300) := by decide +kernel

end Rirekisho
