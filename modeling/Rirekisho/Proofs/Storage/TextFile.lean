import Rirekisho.Proofs.Text.Line
import Rirekisho.Storage.TextFile

namespace Rirekisho

/-- The bytes of a text in UTF-8, behind a mark or without one. -/
def encoded (marked : Bool) (s : String) : ByteArray := (if marked then "\ufeff" ++ s else s).toUTF8

theorem Content.text?_toUTF8 (s : String) :
    (Content.bytes s.toUTF8).text? = some (String.ofList (Text.unifyNewlines s.toList)) := by
  have valid : String.fromUTF8? s.toUTF8 = some s := dif_pos s.isValidUTF8
  simp only [text?, valid, Option.map_some]

theorem dropMark_of_head {cs : List Char} (unmarked : cs.head? ≠ some '\ufeff') :
    dropMark (String.ofList cs) = String.ofList cs := by
  unfold dropMark
  rw [String.toList_ofList]
  split
  next rest => exact absurd rfl unmarked
  next => rfl

/-- Unified ends of lines leave the mark of a text where it is, and make none. -/
theorem head?_unifyNewlines {cs : List Char} (unmarked : cs.head? ≠ some '\ufeff') :
    (Text.unifyNewlines cs).head? ≠ some '\ufeff' := by
  fun_cases Text.unifyNewlines cs with
  | case1 => exact nofun
  | case2 rest => simp
  | case3 c rest single =>
    rw [List.head?_cons]
    split
    · simp
    · exact unmarked

/-- A mark is dropped when there is one, and nothing else is. -/
theorem text?_encoded {marked : Bool} {s : String} (plain : marked = true ∨ s.toList.head? ≠ some '\ufeff') :
    (Content.bytes (encoded marked s)).text?.map dropMark =
      some (String.ofList (Text.unifyNewlines s.toList)) := by
  rw [encoded, Content.text?_toUTF8, Option.map_some]
  cases marked with
  | true =>
    have mark : ("\ufeff" ++ s).toList = '\ufeff' :: s.toList := by rw [String.toList_append]; rfl
    rw [if_pos rfl, mark, Text.unifyNewlines_cons (by decide), dropMark, String.toList_ofList]
    rfl
  | false =>
    have unmarked := plain.resolve_left Bool.false_ne_true
    rw [if_neg Bool.false_ne_true, dropMark_of_head (head?_unifyNewlines unmarked)]

end Rirekisho
