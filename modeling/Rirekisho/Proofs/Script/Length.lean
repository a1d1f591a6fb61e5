import Rirekisho.Proofs.Text.Line
import Rirekisho.Script.Field

namespace Rirekisho

variable {digit : Char → Option Nat} {c : Char} {cs : List Char}

namespace Numeral

/-- A character that stands in no number, nor in a word for one. -/
structure Foreign (digit : Char → Option Nat) (c : Char) : Prop where
  digit : digit c = none
  lower : lowerAscii c = c
  sign : c ≠ '-' ∧ c ≠ '+'
  joint : c ≠ '_' ∧ c ≠ '.' ∧ c ≠ 'e'
  word : c ∉ "infinity".toList ∧ c ∉ "nan".toList

theorem mapM_eq_none {β γ : Type} {f : β → Option γ} {x : β} {xs : List β} (member : x ∈ xs) (none : f x = none) :
    xs.mapM f = .none := by
  induction xs with
  | nil => cases member
  | cons y rest ih =>
    rw [List.mapM_cons]
    rcases List.mem_cons.mp member with rfl | later
    · rw [none]
      rfl
    · rw [ih later]
      cases f y <;> rfl

namespace Foreign

variable (foreign : Foreign digit c)
include foreign

theorem digits? (member : c ∈ cs) : digits? digit cs = none := by
  obtain ⟨part, among, inside⟩ := Text.exists_mem_split foreign.joint.1 member
  have unread : group? digit part = none := by
    unfold group?
    split
    next => rfl
    next => exact mapM_eq_none inside foreign.digit
  rw [Numeral.digits?, mapM_eq_none among unread]
  rfl

theorem digitsOrNone? (member : c ∈ cs) : digitsOrNone? digit cs = none := by
  have some : ¬ cs.isEmpty = true := fun empty => List.ne_nil_of_mem member (List.isEmpty_iff.mp empty)
  rw [Numeral.digitsOrNone?, if_neg some, foreign.digits? member]

theorem fraction? (member : c ∈ cs) : fraction? digit cs = none := by
  obtain ⟨part, among, inside⟩ := Text.exists_mem_split foreign.joint.2.1 member
  unfold Numeral.fraction?
  split
  next whole parts =>
    rw [parts, List.mem_singleton] at among
    rw [foreign.digits? (among ▸ inside)]
    rfl
  next whole fraction parts =>
    rw [parts] at among
    rcases List.mem_cons.mp among with rfl | later
    · rw [foreign.digitsOrNone? inside]
      rfl
    · cases List.mem_singleton.mp later
      rw [foreign.digitsOrNone? inside]
      cases Numeral.digitsOrNone? digit whole <;> rfl
  next => rfl

theorem mem_takeSign (member : c ∈ cs) : c ∈ (takeSign cs).2 := by
  unfold takeSign
  split
  next => exact (List.mem_cons.mp member).resolve_left foreign.sign.1
  next => exact (List.mem_cons.mp member).resolve_left foreign.sign.2
  next => exact member

theorem exponent? (member : c ∈ cs) : exponent? digit cs = none := by
  have inside := foreign.mem_takeSign member
  unfold Numeral.exponent?
  exact congrArg (Option.map _) (foreign.digits? inside)

theorem mem_map_lowerAscii (member : c ∈ cs) : c ∈ cs.map lowerAscii :=
  List.mem_map.mpr ⟨c, member, foreign.lower⟩

theorem decimal? (member : c ∈ cs) : decimal? digit cs = none := by
  obtain ⟨part, among, inside⟩ := Text.exists_mem_split foreign.joint.2.2 (foreign.mem_map_lowerAscii member)
  unfold Numeral.decimal?
  split
  next digits parts =>
    rw [parts, List.mem_singleton] at among
    exact foreign.fraction? (among ▸ inside)
  next digits power parts =>
    rw [parts] at among
    rcases List.mem_cons.mp among with rfl | later
    · rw [foreign.fraction? inside]
      rfl
    · cases List.mem_singleton.mp later
      rw [foreign.exponent? inside]
      cases Numeral.fraction? digit digits <;> rfl
  next => rfl

/-- A text with such a character in it is no number. -/
theorem float? (member : c ∈ cs) : float? digit cs = none := by
  have inside := foreign.mem_takeSign member
  have unlike (word : String) (absent : c ∉ word.toList) :
      String.ofList ((takeSign cs).2.map lowerAscii) ≠ word := by
    rintro rfl
    rw [String.toList_ofList] at absent
    exact absent (foreign.mem_map_lowerAscii inside)
  have infinite := unlike "inf" fun here => foreign.word.1 (List.mem_append_left "inity".toList here)
  have none : magnitude? digit (takeSign cs).2 = none := by
    unfold magnitude?
    dsimp only
    rw [if_neg (not_or.mpr ⟨infinite, unlike _ foreign.word.1⟩), if_neg (unlike _ foreign.word.2),
      foreign.decimal? inside]
    rfl
  exact congrArg (Option.map _) none

end Foreign

end Numeral

namespace Script

/-- The unit that a length may have. -/
def unit : List Char := ['m', 'm']

/-- The length that a text is, or else the text that is taken for a number and is none. -/
def measure (raw : List Char) : Except Failure Float :=
  match length? raw with
  | some x => .ok x
  | none => .error (.noNumber (String.ofList (lengthDigits raw)))

theorem foreign_m : Numeral.Foreign Text.digitValue? 'm' :=
  ⟨by decide, by decide, by decide, by decide, by decide⟩

theorem lengthDigits_of_bare (bare : ¬ unit <:+ Text.strip cs) : lengthDigits cs = Text.strip cs :=
  if_neg fun ended => bare (List.isSuffixOf_iff_suffix.mp ended)

theorem lengthDigits_of_suffix {front : List Char} (ended : Text.strip cs = front ++ unit) :
    lengthDigits cs = Text.strip front := by
  have suffix : unit.isSuffixOf (Text.strip cs) = true :=
    List.isSuffixOf_iff_suffix.mpr (ended ▸ List.suffix_append front unit)
  have taken : (Text.strip cs).take ((Text.strip cs).length - 2) = front := by
    rw [ended]
    exact List.take_left' (by simp [unit])
  exact (if_pos suffix).trans (congrArg Text.strip taken)

/-- What is measured depends on the text that is taken for a number only. -/
theorem measure_congr {other : List Char} (same : lengthDigits cs = lengthDigits other) :
    measure cs = measure other := by
  rw [measure, measure, length?, length?, same]

/-- A unit behind a text that has none changes nothing, whatever blanks stand around it: it is the same length, or the
same text is no number. A text with an m before its unit, such as one with two units, is no length. -/
theorem measure_unit (cs : List Char) :
    (¬ unit <:+ Text.strip cs → ∀ before between behind, (∀ c ∈ before ++ between ++ behind, Text.isBlank c) →
      measure (before ++ cs ++ between ++ unit ++ behind) = measure cs) ∧
    ∀ front between, (∀ c ∈ between, Text.isBlank c) → Text.strip cs = front ++ 'm' :: between ++ unit →
      measure cs = .error (.noNumber (String.ofList (Text.strip (front ++ ['m'])))) := by
  have solid : ∀ c ∈ unit, ¬ Text.isBlank c :=
    List.forall_mem_cons.mpr ⟨by decide, List.forall_mem_singleton.mpr (by decide)⟩
  constructor
  · intro bare before between behind blank
    obtain ⟨blanks, last⟩ := List.forall_mem_append.mp blank
    obtain ⟨first, middle⟩ := List.forall_mem_append.mp blanks
    have stripped : Text.strip (before ++ cs ++ between ++ unit ++ behind) =
        (before ++ cs ++ between).dropWhile Text.isBlank ++ unit := by
      rw [Text.strip_append_of_blank last, Text.strip_append_of_solid (by decide) solid]
    have digits : lengthDigits (before ++ cs ++ between ++ unit ++ behind) = Text.strip cs := by
      rw [lengthDigits_of_suffix stripped, Text.strip_dropWhile, Text.strip_append_of_blank middle,
        Text.strip_of_blank_append first]
    exact measure_congr (digits.trans (lengthDigits_of_bare bare).symm)
  · intro front between blank ended
    have digits : lengthDigits cs = Text.strip (front ++ ['m']) := by
      rw [lengthDigits_of_suffix ended, List.append_cons, Text.strip_append_of_blank blank]
    have kept : 'm' ∈ Text.strip (front ++ ['m']) := by
      rw [Text.strip_append_of_solid (by decide) (List.forall_mem_singleton.mpr (by decide))]
      exact List.mem_append_right _ (List.mem_singleton_self _)
    rw [measure, length?, digits, foreign_m.float? kept]

/-- Five with a unit among blanks, and five with two units. -/
theorem measure_unit_five :
    measure "\t5 mm\u3000".toList = measure "5".toList ∧
      measure " 5mm mm".toList = .error (.noNumber "5mm") :=
  ⟨(measure_unit "5".toList).1 (by decide) ['\t'] [' '] ['\u3000'] (List.all_eq_true.mp (by decide)),
    (measure_unit " 5mm mm".toList).2 ['5', 'm'] [' '] (List.forall_mem_singleton.mpr (by decide)) (by decide)⟩

end Script

end Rirekisho
