import Rirekisho.Proofs.Text.Strip
import Rirekisho.Schema.Simple
import Rirekisho.Yaml.Node

namespace Rirekisho

variable {c : Char} {word : List Char}

namespace Yaml

theorem isDecimal_iff : isDecimal c = true ↔ 48 ≤ c.toNat ∧ c.toNat ≤ 57 := by
  simp only [isDecimal, Bool.and_eq_true, decide_eq_true_eq, Char.le_def, UInt32.le_iff_toNat_le]
  exact Iff.rfl

theorem digitChar_of_isDecimal (decimal : isDecimal c = true) : Nat.digitChar (c.toNat - 48) = c := by
  rw [isDecimal_iff] at decimal
  apply Char.toNat_inj.mp
  rw [Nat.toNat_digitChar_of_lt_ten (by omega)]
  omega

theorem digitValue?_of_isDecimal (decimal : isDecimal c = true) : Text.digitValue? c = some (c.toNat - 48) := by
  rw [isDecimal_iff] at decimal
  simp [Text.digitValue?, Text.digitZeros, decimal.1, show c.toNat < 58 by omega]

theorem lowerAscii_of_isDecimal (decimal : isDecimal c = true) : Numeral.lowerAscii c = c := by
  rw [isDecimal_iff] at decimal
  refine if_neg fun upper => ?_
  have low : 65 ≤ c.toNat := upper.1
  omega

/-- The word is made of digits, and there is one. -/
structure IsDigits (word : List Char) : Prop where
  nonempty : word ≠ []
  each : ∀ c ∈ word, isDecimal c = true

namespace IsDigits

variable (digits : IsDigits word)
include digits

theorem not_mem (other : isDecimal c = false) : c ∉ word := fun member => by
  rw [digits.each c member] at other
  cases other

theorem takeSign : Numeral.takeSign word = (false, word) := by
  unfold Numeral.takeSign
  split
  · exact absurd (List.mem_cons_self ..) (digits.not_mem rfl)
  · exact absurd (List.mem_cons_self ..) (digits.not_mem rfl)
  · rfl

theorem trim : Text.trim word = word := by
  refine Text.trim_of_solid fun c member white => ?_
  have decimal := isDecimal_iff.mp (digits.each c member)
  simp only [Text.isWhite, Bool.or_eq_true, Bool.and_eq_true, decide_eq_true_eq, beq_iff_eq] at white
  omega

/-- No word with another character is made of digits. -/
theorem ofList_not_mem {words : List String} (others : words.all fun w => w.toList.all isDecimal → w.toList = []) :
    String.ofList word ∉ words := by
  intro member
  have other := List.all_eq_true.mp others _ member
  rw [String.toList_ofList] at other
  exact digits.nonempty (of_decide_eq_true other (List.all_eq_true.mpr digits.each))

theorem withoutLineEnd : withoutLineEnd word = word := by
  refine if_neg fun ended => ?_
  exact digits.not_mem rfl (List.mem_of_getLast? ended)

theorem beforeExponent? : beforeExponent? word = some word := by
  have none : word.dropWhile (fun c => !(c == 'e' || c == 'E')) = [] := by
    rw [List.dropWhile_eq_nil_iff]
    intro c member
    have small : c ≠ 'e' := fun same => digits.not_mem rfl (same ▸ member)
    have large : c ≠ 'E' := fun same => digits.not_mem rfl (same ▸ member)
    simp [small, large]
  unfold Yaml.beforeExponent?
  dsimp only
  rw [none]

theorem isFloat : isFloat word = false := by
  have whole : Text.split '.' word = [word] := Text.split_of_not_mem (digits.not_mem rfl)
  have infinite : String.ofList word ∉ [".inf", ".Inf", ".INF"] := digits.ofList_not_mem (by decide)
  have unnumbered : String.ofList word ∉ [".nan", ".NaN", ".NAN"] := digits.ofList_not_mem (by decide)
  simp [Yaml.isFloat, digits.takeSign, isPointed, isFraction, isPointedSixtieths, digits.beforeExponent?, whole,
    infinite, unnumbered]

theorem takeNumber? (least most : Nat) :
    takeNumber? least most word = none ∨ ∃ n, takeNumber? least most word = some (n, []) := by
  have all : word.takeWhile isDecimal = word := List.takeWhile_eq_self_iff.mpr digits.each
  unfold Yaml.takeNumber?
  simp only [all, List.drop_length]
  split
  · exact Or.inr ⟨_, rfl⟩
  · exact Or.inl rfl

theorem isTime : isTime word = false := by
  have none : moment? word = none := by
    rcases digits.takeNumber? 4 4 with short | ⟨n, year⟩
    · simp [moment?, short]
    · simp [moment?, year, after?]
  rw [Yaml.isTime, none]

theorem ofPlain : Tag.ofPlain word = if isInteger word then .integer else .text := by
  have truth : String.ofList word ∉ truthWords := digits.ofList_not_mem (by decide)
  have null : String.ofList word ∉ nullWords := digits.ofList_not_mem (by decide)
  have marks : String.ofList word ∉ ["!", "&", "*"] := digits.ofList_not_mem (by decide)
  have merge : String.ofList word ∉ ["<<"] := digits.ofList_not_mem (by decide)
  have equals : String.ofList word ∉ ["="] := digits.ofList_not_mem (by decide)
  rw [List.mem_singleton] at merge equals
  have feed : word ≠ ['\n'] := fun same => digits.not_mem rfl (same ▸ List.mem_cons_self ..)
  unfold Tag.ofPlain
  simp only [if_neg feed, digits.withoutLineEnd, if_neg truth, digits.isFloat, digits.isTime, if_neg merge,
    if_neg null, if_neg equals, if_neg marks, Bool.false_eq_true, if_false]

end IsDigits

/-- The word is a zero with octal digits after it. -/
def isOctal : List Char → Bool
  | '0' :: c :: rest => (c :: rest).all fun c => '0' ≤ c && c ≤ '7'
  | _ => false

theorem isInteger_zero {rest : List Char} (digits : IsDigits ('0' :: rest)) :
    isInteger ('0' :: rest) = rest.all fun c => '0' ≤ c && c ≤ '7' := by
  unfold isInteger
  simp only [digits.takeSign]
  split
  next same =>
    cases same
    exact absurd (by simp) (digits.not_mem (c := 'b') rfl)
  next same =>
    cases same
    exact absurd (by simp) (digits.not_mem (c := 'x') rfl)
  next same =>
    cases same
    rw [Bool.eq_iff_iff, List.all_eq_true, List.all_eq_true]
    refine forall₂_congr fun c member => ?_
    have other : c ≠ '_' := fun same => digits.not_mem rfl (same ▸ List.mem_cons_of_mem _ member)
    simp [isGrouped, other]
  next other => exact absurd rfl (other rest)

theorem isInteger_of_head (digits : IsDigits word) (head : word.head? ≠ some '0') : isInteger word = true := by
  have whole : Text.split ':' word = [word] := Text.split_of_not_mem (digits.not_mem rfl)
  have run : isNumberRun word = true := by
    obtain ⟨c, rest, rfl⟩ := List.exists_cons_of_ne_nil digits.nonempty
    have grouped : rest.all (isGrouped isDecimal) = true := by
      refine List.all_eq_true.mpr fun c member => ?_
      simp [isGrouped, digits.each c (List.mem_cons_of_mem _ member)]
    rw [isNumberRun, digits.each c (List.mem_cons_self ..), grouped]
    rfl
  unfold isInteger
  simp only [digits.takeSign]
  split
  next same => exact absurd rfl head
  next same => exact absurd rfl head
  next same => exact absurd rfl head
  next => simp only [whole, run, List.all_nil, Bool.and_self]

theorem mapM_digitValue? (each : ∀ c ∈ word, isDecimal c = true) :
    word.mapM Text.digitValue? = some (word.map fun c => c.toNat - 48) := by
  induction word with
  | nil => rfl
  | cons c rest ih =>
    have later := ih fun d member => each d (List.mem_cons_of_mem _ member)
    simp [digitValue?_of_isDecimal (each c (List.mem_cons_self ..)), later]

theorem integer?_of_digits (digits : IsDigits word) (short : word.length ≤ Numeral.integerDigitLimit) :
    Numeral.integer? Text.digitValue? word = some (Nat.ofDigitChars 10 word 0 : Int) := by
  have group : Numeral.group? Text.digitValue? word = some (word.map fun c => c.toNat - 48) := by
    rw [Numeral.group?, if_neg (by simpa using digits.nonempty), mapM_digitValue? digits.each]
  have found : Numeral.digits? Text.digitValue? word = some (word.map fun c => c.toNat - 48) := by
    rw [Numeral.digits?, Text.split_of_not_mem (digits.not_mem rfl)]
    simp [group]
  have number : Numeral.ofDigits (word.map fun c => c.toNat - 48) = Nat.ofDigitChars 10 word 0 := by
    rw [Numeral.ofDigits, List.foldl_map, Nat.ofDigitChars_eq_foldl]
    rfl
  simp [Numeral.integer?, digits.takeSign, found, short, number]

theorem natInBase?_eight (each : ∀ c ∈ word, isDecimal c = true) (small : ∀ c ∈ word, c ≤ '7')
    (nonempty : word ≠ []) : natInBase? 8 word = some (Nat.ofDigitChars 8 word 0) := by
  have digit {c : Char} (member : c ∈ word) : digitValue? c = some (c.toNat - 48) ∧ c.toNat - 48 < 8 := by
    have decimal := each c member
    have bound : c.toNat ≤ 55 := small c member
    rw [digitValue?, lowerAscii_of_isDecimal decimal, digitValue?_of_isDecimal decimal]
    rw [isDecimal_iff] at decimal
    refine ⟨if_neg fun letter => ?_, by omega⟩
    have low : 97 ≤ c.toNat := letter.1
    omega
  have folded (n : Nat) : word.foldlM (fun n c => (digitValue? c).bind fun d =>
      if d < 8 then some (8 * n + d) else none) n = some (Nat.ofDigitChars 8 word n) := by
    clear nonempty each small
    induction word generalizing n with
    | nil => rfl
    | cons c rest ih =>
      obtain ⟨value, bound⟩ := digit (List.mem_cons_self ..)
      rw [List.foldlM_cons, value, Option.bind_some, if_pos bound, Nat.ofDigitChars_cons]
      exact ih (fun member => digit (List.mem_cons_of_mem _ member)) _
  rw [natInBase?, if_neg (by simpa using nonempty), folded]

theorem exists_cons_of_isOctal (octal : isOctal word = true) :
    ∃ c rest, word = '0' :: c :: rest ∧ ∀ d ∈ word, d ≤ '7' := by
  unfold isOctal at octal
  split at octal
  next c rest =>
    refine ⟨c, rest, rfl, fun d member => ?_⟩
    rcases List.mem_cons.mp member with rfl | later
    · decide
    · exact of_decide_eq_true (Bool.and_eq_true_iff.mp (List.all_eq_true.mp octal d later)).2
  next => cases octal

theorem unsignedInteger_octal (digits : IsDigits word) (octal : isOctal word = true) :
    unsignedInteger word = .ok (Nat.ofDigitChars 8 word 0 : Int) := by
  obtain ⟨c, rest, rfl, small⟩ := exists_cons_of_isOctal octal
  have unmarked : ¬ Numeral.lowerAscii c = 'o' := by
    rw [lowerAscii_of_isDecimal (digits.each c (by simp))]
    rintro rfl
    exact digits.not_mem (c := 'o') rfl (by simp)
  have based : inBase 'o' 8 ('0' :: c :: rest) = .ok (Nat.ofDigitChars 8 ('0' :: c :: rest) 0 : Int) := by
    simp [inBase, digits.trim, digits.takeSign, unmarked, natInBase?_eight digits.each small digits.nonempty]
  unfold unsignedInteger
  split
  next same => cases same
  next same => cases same
  next same =>
    cases same
    exact absurd (by simp) (digits.not_mem (c := 'b') rfl)
  next same =>
    cases same
    exact absurd (by simp) (digits.not_mem (c := 'x') rfl)
  next => exact based
  next other => exact absurd rfl (other (c :: rest))

theorem unsignedInteger_of_head (digits : IsDigits word) (head : word.head? ≠ some '0')
    (short : word.length ≤ Numeral.integerDigitLimit) :
    unsignedInteger word = .ok (Nat.ofDigitChars 10 word 0 : Int) := by
  have whole : ':' ∉ word := digits.not_mem rfl
  unfold unsignedInteger
  split
  next => exact absurd rfl digits.nonempty
  next => exact absurd rfl head
  next => exact absurd rfl head
  next => exact absurd rfl head
  next => exact absurd rfl head
  next => simp [whole, decimalInteger, digits.trim, integer?_of_digits digits short]

theorem integerOf_of_digits (digits : IsDigits word) : integerOf word = unsignedInteger word := by
  have kept : word.filter (· != '_') = word := by
    refine List.filter_eq_self.mpr fun c member => ?_
    exact bne_iff_ne.mpr fun same => digits.not_mem rfl (same ▸ member)
  have filled : word.isEmpty = false := by simpa using digits.nonempty
  unfold integerOf
  simp only [kept, filled, digits.takeSign]
  cases unsignedInteger word <;> rfl

theorem toDigits_ofDigitChars (each : ∀ c ∈ word, isDecimal c = true) {n : Nat} (positive : 0 < n) :
    Nat.toDigits 10 (Nat.ofDigitChars 10 word n) = Nat.toDigits 10 n ++ word := by
  induction word generalizing n with
  | nil => simp
  | cons c rest ih =>
    have decimal := each c (List.mem_cons_self ..)
    have bounds := isDecimal_iff.mp decimal
    have small : c.toNat - 48 < 10 := by omega
    have last : Nat.toDigits 10 (c.toNat - 48) = [c] := by
      rw [Nat.toDigits_of_lt_base small, digitChar_of_isDecimal decimal]
    calc Nat.toDigits 10 (Nat.ofDigitChars 10 (c :: rest) n)
        = Nat.toDigits 10 (10 * n + (c.toNat - 48)) ++ rest := by
          rw [Nat.ofDigitChars_cons]
          exact ih (fun d member => each d (List.mem_cons_of_mem _ member)) (by omega)
      _ = (Nat.toDigits 10 n ++ [c]) ++ rest := by
          rw [← Nat.toDigits_append_toDigits (by decide) positive small, last]
      _ = Nat.toDigits 10 n ++ c :: rest := by rw [List.append_assoc, List.singleton_append]

theorem toDigits_of_head (digits : IsDigits word) (head : word.head? ≠ some '0') :
    Nat.toDigits 10 (Nat.ofDigitChars 10 word 0) = word := by
  obtain ⟨c, rest, rfl⟩ := List.exists_cons_of_ne_nil digits.nonempty
  have decimal := digits.each c (List.mem_cons_self ..)
  have bounds := isDecimal_iff.mp decimal
  have positive : 0 < c.toNat - 48 := by
    have other : c.toNat ≠ 48 := fun same => head (congrArg some (Char.toNat_inj.mp same))
    omega
  have first : Nat.toDigits 10 (c.toNat - 48) = [c] := by
    rw [Nat.toDigits_of_lt_base (by omega), digitChar_of_isDecimal decimal]
  have later := toDigits_ofDigitChars (fun d member => digits.each d (List.mem_cons_of_mem _ member)) positive
  rw [first] at later
  rw [Nat.ofDigitChars_cons, Nat.mul_zero, Nat.zero_add]
  exact later

/-- The text that a word of digits comes to: itself, if it is no integer or an integer with the same digits,
and else the digits of the number that it writes in octal. -/
inductive Spelt (word : List Char) : String → Prop
  | itself (decimal : isOctal word = false)
      (short : word.head? = some '0' ∨ word.length ≤ Numeral.integerDigitLimit) : Spelt word (String.ofList word)
  | octal (octal : isOctal word = true)
      (short : (Nat.toDigits 10 (Nat.ofDigitChars 8 word 0)).length ≤ Numeral.integerDigitLimit) :
      Spelt word (Numeral.integerText (Nat.ofDigitChars 8 word 0))

theorem looseText_nat {n : Nat} (short : (Nat.toDigits 10 n).length ≤ Numeral.integerDigitLimit) :
    Schema.looseText (.int n) = .valid (String.ofList (Nat.toDigits 10 n)) := by
  simp only [Schema.looseText, Int.natAbs_natCast, if_neg (Nat.not_lt.mpr short), Numeral.integerText]
  rw [if_neg (by omega)]

/-- A plain word of digits stands for the same value everywhere, and this says the text that the word comes
to. -/
theorem value_digits {text : String} (digits : IsDigits word) (spelt : Spelt word text) :
    ∃ v, (∀ anchors depth, (Node.scalar (.ofPlain word) word).value anchors depth = .ok v) ∧
      Schema.looseText v = .valid text := by
  have integer {n : Nat} (form : isInteger word = true) (number : unsignedInteger word = .ok (n : Int)) :
      ∀ anchors depth, (Node.scalar (.ofPlain word) word).value anchors depth = .ok (.int n) := by
    intro anchors depth
    rw [digits.ofPlain, if_pos form]
    simp [Node.value, Node.isSimple, Node.simpleValue, integerOf_of_digits digits, number, Built.at, Except.map]
  cases spelt with
  | itself decimal short =>
    by_cases head : word.head? = some '0'
    · obtain ⟨rest, rfl⟩ := List.head?_eq_some_iff.mp head
      cases rest with
      | nil => exact ⟨.int (0 : Nat), integer rfl rfl, looseText_nat (by decide)⟩
      | cons c rest =>
        have form : isInteger ('0' :: c :: rest) = false := (isInteger_zero digits).trans decimal
        refine ⟨.text (String.ofList ('0' :: c :: rest)), fun anchors depth => ?_, rfl⟩
        rw [digits.ofPlain, form]
        rfl
    · have form := isInteger_of_head digits head
      have kept := short.resolve_left head
      refine ⟨_, integer form (unsignedInteger_of_head digits head kept), ?_⟩
      have same := toDigits_of_head digits head
      rw [looseText_nat (by rw [same]; exact kept), same]
  | octal octal short =>
    have form : isInteger word = true := by
      obtain ⟨c, rest, rfl, _⟩ := exists_cons_of_isOctal octal
      exact (isInteger_zero digits).trans octal
    refine ⟨_, integer form (unsignedInteger_octal digits octal), ?_⟩
    rw [looseText_nat short]
    rfl

end Yaml

end Rirekisho
