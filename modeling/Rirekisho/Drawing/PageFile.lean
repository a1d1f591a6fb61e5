import Rirekisho.Drawing.Document
import Rirekisho.Numeral.Literal
import Rirekisho.Text.Quoted

namespace Rirekisho.PageFile

/-- A length in thousandths of a point. -/
def length (x : Float) : String :=
  let thousandths := (x * 1000.0).round.toInt64.toInt
  let digits := (toString (thousandths.natAbs % 1000)).toList
  (if thousandths < 0 then "-" else "") ++ Numeral.integerText (thousandths.natAbs / 1000) ++ "." ++
    String.ofList (List.replicate (3 - digits.length) '0' ++ digits)

/-- Words of a file with a space between them. -/
def words (parts : List String) : String := " ".intercalate parts

/-- The units of sixteen bits that a character is written with. -/
def units (c : Char) : List Nat :=
  let n := c.toNat
  if n < 0x10000 then [n]
  else [0xd800 + (n - 0x10000) / 0x400, 0xdc00 + (n - 0x10000) % 0x400]

/-- A text in hexadecimal digits. -/
def hexText (s : String) : String :=
  "<" ++ String.ofList ((s.toList.flatMap units).flatMap (Text.hex 4)) ++ ">"

/-- The name of a face in a file: the gothic one, or the one for everything else. -/
def faceName (face : String) : String := if face = "gothic" then "/Gothic" else "/Mincho"

/-- The faces as they are set: without measures in the file each character is as wide as the size. -/
def typecase : Typecase Float where
  known := []
  width text _ size := Float.ofNat text.length * size

/-- A step of a path. -/
def step : PathStep Float → String
  | .move x y => words [length x, length y, "m"]
  | .line x y => words [length x, length y, "l"]
  | .close => "h"

/-- A call as it stands in the contents of a page, if it leaves anything there. -/
def content? : CanvasCall Float → Option String
  | .font face size => some (words [faceName face, length size, "Tf"])
  | .text x y text =>
    some (words ["BT 1 0 0 1", length x, length y, "Tm", hexText text, "Tj ET"])
  | .lineWidth width => some (words [length width, "w"])
  | .solid => some "[] 0 d"
  | .dashes on off => some (words ["[", length on, length off, "] 0 d"])
  | .path steps => some (words (steps.map step ++ ["S"]))
  | .image _ x y width height =>
    some (words [length x, length y, length width, length height, "re S"])
  | .open .. | .title _ | .nextPage | .save => none

/-- The calls of each page. -/
def pages : List (CanvasCall Float) → List (List (CanvasCall Float))
  | [] => [[]]
  | call :: rest =>
    match call, pages rest with
    | .nextPage, more => [] :: more
    | call, [] => [[call]]
    | call, page :: more => (call :: page) :: more

/-- An entry of a file with contents. -/
def stream (text : String) : String :=
  "<< /Length " ++ toString text.length ++ " >>\nstream\n" ++ text ++ "\nendstream"

/-- A reference to an entry. -/
def reference (number : Nat) : String := toString number ++ " 0 R"

/-- The entries for a face: the face, the glyphs that it takes from the next entry, in the order that
is usual for Japanese, and their measures in the last one. -/
def faceEntries (base : String) (glyphs : Nat) : List String :=
  ["<< /Type /Font /Subtype /Type0 /BaseFont /" ++ base ++
      " /Encoding /UniJIS-UTF16-H /DescendantFonts [" ++ reference glyphs ++ "] >>",
    "<< /Type /Font /Subtype /CIDFontType0 /BaseFont /" ++ base ++ " /FontDescriptor " ++
      reference (glyphs + 1) ++
      " /CIDSystemInfo << /Registry <41646f6265> /Ordering <4a6170616e31> /Supplement 6 >> >>",
    "<< /Type /FontDescriptor /FontName /" ++ base ++ " /Flags 6 /FontBBox [0 -250 1000 900]" ++
      " /ItalicAngle 0 /Ascent 860 /Descent -140 /CapHeight 709 /StemV 70 >>"]

/-- The entries before those of pages. -/
def frontEntries : Nat := 9

/-- The number of the entry of a page. The entry with its contents follows. -/
def pageNumber (index : Nat) : Nat := frontEntries + 1 + 2 * index

/-- The entries for a page. -/
def pageEntries (index : Nat) (calls : List (CanvasCall Float)) : List String :=
  ["<< /Type /Page /Parent 2 0 R /Contents " ++ reference (pageNumber index + 1) ++ " >>",
    stream ("\n".intercalate (calls.filterMap content?))]

/-- The size of the pages. -/
def pageSize (calls : List (CanvasCall Float)) : String :=
  (calls.findSome? fun
    | .open _ width height => some (words [length width, length height])
    | _ => none).getD "0 0"

/-- The title. -/
def title (calls : List (CanvasCall Float)) : String :=
  (calls.findSome? fun
    | .title title => some title
    | _ => none).getD ""

/-- All entries, in the order of their numbers, which begin at one. -/
def entries (calls : List (CanvasCall Float)) : List String :=
  let pages := pages calls
  let kids := words ((List.range pages.length).map fun index => reference (pageNumber index))
  ["<< /Type /Catalog /Pages 2 0 R >>",
    "<< /Type /Pages /Count " ++ toString pages.length ++ " /Kids [" ++ kids ++
      "] /MediaBox [0 0 " ++ pageSize calls ++
      "] /Resources << /Font << /Mincho 4 0 R /Gothic 7 0 R >> >> >>",
    "<< /Title " ++ hexText ("\ufeff" ++ title calls) ++ " >>"] ++
  faceEntries "HeiseiMin-W3" 5 ++ faceEntries "HeiseiKakuGo-W5" 8 ++
  pages.zipIdx.flatMap fun (page, index) => pageEntries index page

/-- A file while it is put together: its parts, the last one first, its size so far, and the places
of its entries, the last one first. -/
structure Draft where
  parts : List String
  size : Nat
  places : List Nat

/-- The draft with an entry added. -/
def Draft.add (draft : Draft) (entry : String) : Draft :=
  let number := draft.places.length + 1
  let part := toString number ++ " 0 obj\n" ++ entry ++ "\nendobj\n"
  ⟨part :: draft.parts, draft.size + part.length, draft.size :: draft.places⟩

/-- The line for an entry in the list of places, twenty characters long. -/
def placeLine (place : Nat) : String :=
  let digits := (toString place).toList
  String.ofList (List.replicate (10 - digits.length) '0' ++ digits) ++ " 00000 n \n"

/-- What a file begins with. -/
def front : String := "%PDF-1.4\n"

/-- The end of a file: where its entries stand, and which ones to begin with. -/
def back (draft : Draft) : String :=
  let count := toString (draft.places.length + 1)
  "xref\n0 " ++ count ++ "\n0000000000 65535 f \n" ++
    String.join (draft.places.reverse.map placeLine) ++
    "trailer\n<< /Size " ++ count ++ " /Root 1 0 R /Info 3 0 R >>\nstartxref\n" ++
    toString draft.size ++ "\n%%EOF\n"

/-- The file of the calls on a canvas, in the order in which they were made. -/
def ofCalls (calls : List (CanvasCall Float)) : String :=
  let draft := (entries calls).foldl Draft.add ⟨[], front.length, []⟩
  front ++ String.join draft.parts.reverse ++ back draft

end Rirekisho.PageFile
