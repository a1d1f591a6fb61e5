import Rirekisho.Text.Case

namespace Rirekisho.Text

variable {c d : Char} {cs word : List Char}

/-- The character is none of ASCII, or it is the letter that a character beyond ASCII becomes. -/
def Strange (d : Char) : Prop := 0x80 ≤ d.toNat ∨ d = 'k'

/-- What a character becomes: its own small letter, or something without capitals that is not all of ASCII. -/
inductive Becomes (c : Char) : List Char → Prop
  | letter : Becomes c [c.toLower]
  | beyond {out : List Char} (small : ∀ d ∈ out, d.isUpper = false) (strange : ∃ d ∈ out, Strange d) : Becomes c out

theorem toNat_ofNat {n : Nat} (valid : n.isValidChar) : (Char.ofNat n).toNat = n := by
  rw [Char.ofNat, dif_pos valid]
  rfl

theorem ascii_forall (good : Char → Prop) (all : ∀ n < 0x80, good (Char.ofNat n)) (ascii : c.toNat < 0x80) :
    good c := by
  have own := all c.toNat ascii
  rwa [Char.ofNat_toNat] at own

theorem toNat_lt_of_isUpper (upper : c.isUpper = true) : c.toNat < 0x80 := by
  have bound : c.val.toNat ≤ 90 := UInt32.le_iff_toNat_le.mp (of_decide_eq_true upper).2
  exact Nat.lt_of_le_of_lt bound (by decide)

theorem toLower_of_small (small : c.isUpper = false) : c.toLower = c := by
  exact dif_neg (of_decide_eq_false small)

theorem Becomes.single (beyond : 0x80 ≤ d.toNat) : Becomes c [d] := by
  refine .beyond (fun e member => ?_) ⟨d, List.mem_singleton_self d, .inl beyond⟩
  rw [List.mem_singleton.mp member, Bool.eq_false_iff]
  exact fun upper => absurd (toNat_lt_of_isUpper upper) (Nat.not_lt.mpr beyond)

theorem toLower_not_isUpper (c : Char) : c.toLower.isUpper = false := by
  by_cases ascii : c.toNat < 0x80
  · exact ascii_forall (·.toLower.isUpper = false) (by decide +kernel) ascii
  · have small : c.isUpper = false := Bool.eq_false_iff.mpr fun upper => ascii (toNat_lt_of_isUpper upper)
    rw [toLower_of_small small]
    exact small

theorem Becomes.small {out : List Char} (becomes : Becomes c out) : ∀ d ∈ out, d.isUpper = false := by
  cases becomes with
  | letter => exact fun d member => List.mem_singleton.mp member ▸ toLower_not_isUpper c
  | beyond small _ => exact small

/-- The other case of what is not in ASCII is not in ASCII either, the Kelvin sign apart. -/
theorem lowerRows_beyond : ∀ row ∈ lowerRows, row.2.1 < 0x80 ∨ row = (0x212a, 0x212a, 1, -8383) ∨
    0x80 ≤ row.1 + row.2.2.2 ∧ (row.2.1 + row.2.2.2 < 0xd800 ∨
      0xdfff < row.1 + row.2.2.2 ∧ row.2.1 + row.2.2.2 < 0x110000) := by decide +kernel

theorem mapCase_becomes (c : Char) : Becomes c (mapCase lowerRows lowerExpansions c) := by
  by_cases ascii : c.toNat < 0x80
  · have letter := ascii_forall (fun c => mapCase lowerRows lowerExpansions c = [c.toLower]) (by decide +kernel) ascii
    exact letter ▸ .letter
  · have beyond : 0x80 ≤ c.toNat := Nat.not_lt.mp ascii
    unfold mapCase
    split
    next n codes found =>
      cases List.mem_singleton.mp (List.mem_of_find?_eq_some found)
      have small : ∀ d ∈ [Char.ofNat 0x69, Char.ofNat 0x307], d.isUpper = false :=
        List.forall_mem_cons.mpr ⟨by decide, List.forall_mem_singleton.mpr (by decide)⟩
      exact .beyond small ⟨Char.ofNat 0x307, List.mem_cons_of_mem _ (List.mem_singleton_self _), .inl (by decide)⟩
    next =>
      split
      next first last stride distance found =>
        have covered := List.find?_some found
        simp only [Bool.and_eq_true, decide_eq_true_eq] at covered
        -- No row leads from beyond ASCII into it, but for that of the Kelvin sign.
        rcases lowerRows_beyond _ (List.mem_of_find?_eq_some found) with within | kelvin | ⟨outside, valid⟩
        · dsimp only at within
          omega
        · cases kelvin
          have same : c.toNat = 0x212a := by omega
          rw [same]
          exact .beyond (List.forall_mem_singleton.mpr (by decide)) ⟨'k', List.mem_singleton_self _, .inr rfl⟩
        · dsimp only at outside valid
          have character : ((c.toNat : Int) + distance).toNat.isValidChar := by
            rw [Nat.isValidChar]
            omega
          refine .single ?_
          rw [toNat_ofNat character]
          omega
      next => exact .single beyond

theorem lowerAfter_cons (before : List Char) (c : Char) (rest : List Char) :
    ∃ out, Becomes c out ∧ lowerAfter before (c :: rest) = out ++ lowerAfter (c :: before) rest := by
  refine ⟨_, ?_, rfl⟩
  split
  · split
    · exact .single (by decide)
    · exact .single (by decide)
  · exact mapCase_becomes c

theorem isUpper_lowerAfter (before : List Char) : ∀ d ∈ lowerAfter before cs, d.isUpper = false := by
  induction cs generalizing before with
  | nil => exact List.forall_mem_nil _
  | cons c rest ih =>
    obtain ⟨out, becomes, same⟩ := lowerAfter_cons before c rest
    rw [same]
    exact List.forall_mem_append.mpr ⟨becomes.small, ih _⟩

/-- The lower case of a text holds no capitals of ASCII. -/
theorem isUpper_lower : ∀ d ∈ lower cs, d.isUpper = false := isUpper_lowerAfter []

theorem eq_of_lowerAfter_eq {before : List Char} (small : ∀ c ∈ cs, c.isUpper = false)
    (plain : ∀ d ∈ word, ¬ Strange d) (same : lowerAfter before cs = word) : cs = word := by
  induction cs generalizing before word with
  | nil => exact same
  | cons c rest ih =>
    obtain ⟨out, becomes, parted⟩ := lowerAfter_cons before c rest
    obtain ⟨own, others⟩ := List.forall_mem_cons.mp small
    rw [← same, parted] at plain
    obtain ⟨first, later⟩ := List.forall_mem_append.mp plain
    rw [← same, parted]
    cases becomes with
    | letter =>
      rw [toLower_of_small own]
      exact congrArg (c :: ·) (ih others later rfl)
    | beyond _ strange =>
      obtain ⟨d, member, odd⟩ := strange
      exact absurd odd (first d member)

/-- A text without capitals is what it is in lower case, if that is a word of ASCII without the letter k. -/
theorem eq_of_lower_eq (small : ∀ c ∈ cs, c.isUpper = false) (plain : ∀ d ∈ word, ¬ Strange d)
    (same : lower cs = word) : cs = word := eq_of_lowerAfter_eq small plain same

end Rirekisho.Text
