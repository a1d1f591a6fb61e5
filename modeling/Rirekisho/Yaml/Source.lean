import Rirekisho.Storage.TextFile
import Rirekisho.Yaml.Flaw

namespace Rirekisho.Yaml

/-- The text of a document as far as it can be read, and what stands in the way there, unless it is
the end of the document. -/
structure Source where
  text : List Char
  obstacle : Option Failure := none

namespace Source

/-- The number of characters in a piece. -/
def pieceSize : Nat := 4096

/-- The number of characters in the pieces that are read before the piece with the given number. The
first two are read at once. -/
def sizeBefore (piece : Nat) : Nat := if piece ≤ 1 then 0 else piece * pieceSize

/-- A character that may stand in a document. -/
def isVisible (c : Char) : Bool :=
  let n := c.toNat
  n == 0x09 || n == 0x0a || n == 0x0d || (0x20 ≤ n && n ≤ 0x7e) || n == 0x85 ||
    (0xa0 ≤ n && n ≤ 0xd7ff) || (0xe000 ≤ n && n ≤ 0xfffd) || 0x10000 ≤ n

/-- A source up to the piece with a character that may not stand in a document, if there is one. -/
def visible (source : Source) : Source :=
  let front := (source.text.takeWhile isVisible).length
  if front = source.text.length then source
  else
    { text := source.text.take (sizeBefore (front / pieceSize))
      obstacle := some Flaw.hiddenCharacter.toFailure }

/-- The source that a text is. -/
def ofText (text : String) : Source := visible { text := text.toList }

/-- After a first byte, how many more belong to its character, and the bounds of the next one. -/
def following? (first : UInt8) : Option (Nat × UInt8 × UInt8) :=
  if first < 0x80 then some (0, 0x80, 0xbf)
  else if first < 0xc2 then none
  else if first < 0xe0 then some (1, 0x80, 0xbf)
  else if first < 0xf0 then
    some (2, if first = 0xe0 then 0xa0 else 0x80, if first = 0xed then 0x9f else 0xbf)
  else if first < 0xf5 then
    some (3, if first = 0xf0 then 0x90 else 0x80, if first = 0xf4 then 0x8f else 0xbf)
  else none

/-- The place of the first bytes that are no character, and the place of the byte by which this is
known: it may be the end. The bytes before them are characters up to `start`, so many are due to
complete the last one, and the next of these has bounds. -/
def firstBad : (start place due : Nat) → (low high : UInt8) → List UInt8 → Option (Nat × Nat)
  | _, _, 0, _, _, [] => none
  | start, place, _ + 1, _, _, [] => some (start, place)
  | _, place, 0, _, _, byte :: rest =>
    match following? byte with
    | none => some (place, place)
    | some (due, low, high) => firstBad place (place + 1) due low high rest
  | start, place, due + 1, low, high, byte :: rest =>
    if low ≤ byte ∧ byte ≤ high then firstBad start (place + 1) due 0x80 0xbf rest
    else some (start, place)

/-- For each character of a text, with its ends of lines unified, how many bytes have to be read for
it. After a carriage return alone the next character has to be known. -/
def ends : Nat → List Char → List Nat
  | _, [] => []
  | place, '\r' :: '\n' :: rest => (place + 2) :: ends (place + 2) rest
  | place, '\r' :: c :: rest => (place + 1 + c.utf8Size) :: ends (place + 1) (c :: rest)
  | place, c :: rest => (place + c.utf8Size) :: ends (place + c.utf8Size) rest

/-- The number of bytes that are read at once, if fewer are not asked for. -/
def blockSize : Nat := 8192

/-- The number of the piece for which a byte is read, or the end. So many bytes have been read before,
so many characters are known from them, and of the last block so many bytes gave so many characters:
by this it is told how many bytes the rest of a piece will need. Fuel is given for blocks and pieces. -/
def pieceOf (size : Nat) (ends : List Nat) (byte : Nat) :
    Nat → (piece read known bytes characters : Nat) → Nat
  | 0, piece, _, _, _, _ => piece
  | fuel + 1, piece, read, known, bytes, characters =>
    let missing := (piece + 1) * pieceSize - known
    if missing = 0 then pieceOf size ends byte fuel (piece + 1) read known bytes characters
    else
      let needed := if characters < bytes then missing * bytes / characters else missing
      let next := min size (read + max blockSize needed)
      if read = size || byte < next then piece
      else
        let sofar := (ends.takeWhile (· ≤ next)).length
        pieceOf size ends byte fuel piece next sofar (next - read) (sofar - known)

/-- Bytes that are no text, as far as they are read before this is known. -/
def ofBytes (data : ByteArray) : Source :=
  let (start, byte) := (firstBad 0 0 0 0 0 data.toList).getD (0, 0)
  let text := ((String.fromUTF8? (data.extract 0 start)).getD "").toList
  let piece := pieceOf data.size (ends 0 text) byte (2 * data.size + 2) 0 0 0 0 0
  { text := (Text.unifyNewlines text).take (sizeBefore piece), obstacle := some .undecodable }

/-- The source that a file is. -/
def ofContent (content : Content) : Source :=
  match content.text?, content with
  | some text, _ => ofText text
  | none, .bytes data => (ofBytes data).visible
  | none, _ => { text := [], obstacle := some .undecodable }

end Source

end Rirekisho.Yaml
