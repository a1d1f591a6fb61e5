import Mathlib.Data.List.Induction
import Mathlib.Data.List.TakeWhile
import Rirekisho.Text.Blank
import Rirekisho.Text.Line

namespace Rirekisho.Text

variable {cs : List Char} {c : Char}

theorem strip_cons (blank : isBlank c) : strip (c :: cs) = strip cs := by
  rw [strip, strip, List.dropWhile_cons_of_pos blank]

theorem dropWhileEnd_concat (blank : isBlank c) :
    dropWhileEnd isBlank (cs ++ [c]) = dropWhileEnd isBlank cs := by
  rw [dropWhileEnd, dropWhileEnd, List.reverse_concat, List.dropWhile_cons_of_pos blank]

theorem dropWhileEnd_concat_self (solid : ¬ isBlank c) :
    dropWhileEnd isBlank (cs ++ [c]) = cs ++ [c] := by
  rw [dropWhileEnd, List.reverse_concat, List.dropWhile_cons_of_neg solid, List.reverse_cons,
    List.reverse_reverse]

theorem strip_concat (blank : isBlank c) : strip (cs ++ [c]) = strip cs := by
  rw [strip, strip, List.dropWhile_append]
  cases begun : cs.dropWhile isBlank with
  | nil => rw [List.isEmpty_nil, if_pos rfl, List.dropWhile_cons_of_pos blank, List.dropWhile_nil]
  | cons d ds => rw [List.isEmpty_cons, if_neg (by decide), dropWhileEnd_concat blank]

theorem strip_append_of_blank {blanks : List Char} (blank : ∀ c ∈ blanks, isBlank c) (cs : List Char) :
    strip (cs ++ blanks) = strip cs := by
  induction blanks using List.reverseRecOn with
  | nil => rw [List.append_nil]
  | append_singleton rest c ih =>
    obtain ⟨others, last⟩ := List.forall_mem_append.mp blank
    rw [← List.append_assoc, strip_concat (last c (List.mem_singleton_self c)), ih others]

theorem strip_of_blank_append {blanks : List Char} (blank : ∀ c ∈ blanks, isBlank c) (cs : List Char) :
    strip (blanks ++ cs) = strip cs := by
  induction blanks with
  | nil => rfl
  | cons c rest ih =>
    obtain ⟨first, others⟩ := List.forall_mem_cons.mp blank
    rw [List.cons_append, strip_cons first, ih others]

theorem strip_dropWhile (cs : List Char) : strip (cs.dropWhile isBlank) = strip cs := by
  have blank : ∀ c ∈ cs.takeWhile isBlank, isBlank c := fun c member => List.mem_takeWhile_imp member
  rw [← strip_of_blank_append blank, List.takeWhile_append_dropWhile]

/-- A word without blanks at the end of a text stays there when the text is stripped. -/
theorem strip_append_of_solid {word : List Char} (some : word ≠ []) (solid : ∀ c ∈ word, ¬ isBlank c)
    (cs : List Char) : strip (cs ++ word) = cs.dropWhile isBlank ++ word := by
  have begun : (cs ++ word).dropWhile isBlank = cs.dropWhile isBlank ++ word := by
    obtain ⟨c, rest, rfl⟩ := List.exists_cons_of_ne_nil some
    rw [List.dropWhile_append, List.dropWhile_cons_of_neg (solid c (List.mem_cons_self ..))]
    split
    next none => rw [List.isEmpty_iff.mp none, List.nil_append]
    next => rfl
  obtain ⟨front, last, rfl⟩ : ∃ front last, word = front ++ [last] :=
    ⟨_, _, (List.dropLast_concat_getLast some).symm⟩
  rw [strip, begun, ← List.append_assoc, dropWhileEnd_concat_self (solid last List.mem_concat_self)]

section
variable {p : Char → Bool} (passes : ∀ c, isBlank c → p c)
include passes

theorem strip_takeWhile_dropWhile (cs : List Char) :
    strip ((cs.dropWhile isBlank).takeWhile p) = strip (cs.takeWhile p) := by
  induction cs with
  | nil => rfl
  | cons c rest ih =>
    cases blank : isBlank c with
    | true =>
      rw [List.dropWhile_cons_of_pos blank, List.takeWhile_cons_of_pos (passes c blank),
        strip_cons blank, ih]
    | false => rw [List.dropWhile_cons_of_neg (by simp [blank])]

theorem strip_takeWhile_dropWhileEnd (cs : List Char) :
    strip ((dropWhileEnd isBlank cs).takeWhile p) = strip (cs.takeWhile p) := by
  induction cs using List.reverseRecOn with
  | nil => rfl
  | append_singleton rest c ih =>
    cases blank : isBlank c with
    | true =>
      rw [dropWhileEnd_concat blank, ih, List.takeWhile_append]
      split
      next whole =>
        have all : rest.takeWhile p = rest := (List.takeWhile_prefix p).eq_of_length whole
        rw [List.takeWhile_cons_of_pos (passes c blank), List.takeWhile_nil, strip_concat blank, all]
      next => rfl
    | false => rw [dropWhileEnd_concat_self (by simp [blank])]

/-- The first part of a stripped text is, without the blanks around it, that of the text itself. -/
theorem strip_takeWhile_strip (cs : List Char) :
    strip ((strip cs).takeWhile p) = strip (cs.takeWhile p) := by
  have ended := strip_takeWhile_dropWhileEnd passes (cs.dropWhile isBlank)
  exact ended.trans (strip_takeWhile_dropWhile passes cs)

end

theorem strip_head {c : Char} {cs : List Char} (solid : ¬ isBlank c) : (strip (c :: cs)).head? = some c := by
  rw [strip, List.dropWhile_cons_of_neg solid, dropWhileEnd, List.reverse_cons, List.dropWhile_append]
  split
  · rw [List.dropWhile_cons_of_neg solid]
    rfl
  · rw [List.reverse_concat]
    rfl

theorem strip_strip (cs : List Char) : strip (strip cs) = strip cs := by
  have whole (xs : List Char) : xs.takeWhile (fun _ => true) = xs := by
    induction xs with
    | nil => rfl
    | cons x xs ih => rw [List.takeWhile_cons_of_pos rfl, ih]
  simpa only [whole] using strip_takeWhile_strip (p := fun _ => true) (fun _ _ => rfl) cs

theorem trim_of_solid (solid : ∀ c ∈ cs, ¬ isWhite c) : trim cs = cs := by
  rw [trim, List.dropWhile_eq_self_iff.mpr fun some => solid _ (List.getElem_mem some), dropWhileEnd,
    List.dropWhile_eq_self_iff.mpr fun some => solid _ (List.mem_reverse.mp (List.getElem_mem some)),
    List.reverse_reverse]

theorem split_of_not_mem {separator : Char} (absent : separator ∉ cs) :
    split separator cs = [cs] := by
  induction cs with
  | nil => rfl
  | cons c rest ih =>
    rw [List.mem_cons, not_or] at absent
    rw [split, if_neg (Ne.symm absent.1), ih absent.2]

theorem split_head (separator : Char) (cs : List Char) :
    (split separator cs).head (split_ne_nil separator cs) = cs.takeWhile (· ≠ separator) := by
  induction cs with
  | nil => rfl
  | cons c rest ih =>
    by_cases here : c = separator
    · simp [split, here]
    · obtain ⟨part, more, parts⟩ := List.exists_cons_of_ne_nil (split_ne_nil separator rest)
      simp only [parts, List.head_cons] at ih
      simp [split, here, parts, ih]

end Rirekisho.Text
