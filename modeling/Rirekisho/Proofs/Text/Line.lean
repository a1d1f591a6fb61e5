import Rirekisho.Proofs.Text.Strip

namespace Rirekisho.Text

variable {separator : Char} {cs : List Char} {c : Char}

theorem lines_cons_pair (cs : List Char) : lines ('\r' :: '\n' :: cs) = [] :: lines cs := by rw [lines]

theorem lines_cons_boundary (ends : isBoundary c)
    (single : c = '\r' → cs.head? ≠ some '\n') : lines (c :: cs) = [] :: lines cs := by
  rw [lines, if_pos ends]
  rintro rest rfl rfl
  exact single rfl rfl

theorem lines_cons_inner (inside : ¬ isBoundary c) :
    lines (c :: cs) = (c :: (lines cs).headD []) :: (lines cs).tail := by
  rw [lines, if_neg inside]
  · cases lines cs <;> rfl
  · rintro rest rfl
    exact absurd (by decide) inside

/-- A carriage return that is no pair with what follows is not followed by a line feed. -/
theorem head_ne_of_single (single : ∀ rest, c = '\r' → cs = '\n' :: rest → False) (carriage : c = '\r') :
    cs.head? ≠ some '\n' := by
  intro feed
  obtain ⟨rest, rfl⟩ := List.head?_eq_some_iff.mp feed
  exact single rest carriage rfl

theorem lines_ne_nil (some : cs ≠ []) : lines cs ≠ [] := by
  fun_cases lines cs <;> simp_all

/-- No line goes beyond its end. -/
theorem not_isBoundary_of_mem_lines {line : List Char} (member : line ∈ lines cs) :
    ∀ c ∈ line, ¬ isBoundary c := by
  induction cs using lines.induct generalizing line with
  | case1 => cases member
  | case2 rest ih =>
    rw [lines] at member
    rcases List.mem_cons.mp member with rfl | later
    · exact nofun
    · exact ih later
  | case3 c rest single ends ih =>
    rw [lines, if_pos ends] at member
    · rcases List.mem_cons.mp member with rfl | later
      · exact nofun
      · exact ih later
    · exact single
  | case4 c rest single inside none ih =>
    rw [lines_cons_inner inside, none] at member
    cases List.mem_singleton.mp member
    simpa using inside
  | case5 c rest single inside own more parts ih =>
    rw [lines_cons_inner inside, parts] at member
    rw [parts] at ih
    rcases List.mem_cons.mp member with rfl | later
    · exact List.forall_mem_cons.mpr ⟨inside, ih (List.mem_cons_self ..)⟩
    · exact ih (List.mem_cons_of_mem _ later)

/-- A text without an end of a line in it is one line. -/
theorem lines_of_inner (some : cs ≠ []) (inside : ∀ c ∈ cs, ¬ isBoundary c) : lines cs = [cs] := by
  induction cs with
  | nil => exact absurd rfl some
  | cons c rest ih =>
    rw [List.forall_mem_cons] at inside
    rw [lines_cons_inner inside.1]
    cases rest with
    | nil => rfl
    | cons d ds => rw [ih (List.cons_ne_nil d ds) inside.2]; rfl

theorem unifyNewlines_cons (other : c ≠ '\r') (cs : List Char) :
    unifyNewlines (c :: cs) = c :: unifyNewlines cs := by
  rw [unifyNewlines, if_neg other]
  rintro rest rfl
  exact absurd rfl other

/-- A text without carriage returns has unified ends of lines already. -/
theorem unifyNewlines_of_feeds (feeds : '\r' ∉ cs) : unifyNewlines cs = cs := by
  induction cs with
  | nil => rfl
  | cons c rest ih =>
    rw [List.mem_cons, not_or] at feeds
    rw [unifyNewlines_cons (Ne.symm feeds.1), ih feeds.2]

/-- A text has the same lines when every end of them is written as a line feed. -/
theorem lines_unifyNewlines (cs : List Char) : lines (unifyNewlines cs) = lines cs := by
  have feed (cs : List Char) : lines ('\n' :: cs) = [] :: lines cs :=
    lines_cons_boundary (by decide) (absurd · (by decide))
  induction cs using lines.induct with
  | case1 => rfl
  | case2 rest ih => rw [unifyNewlines, feed, ih, lines_cons_pair]
  | case3 c rest single ends ih =>
    rw [lines_cons_boundary ends (head_ne_of_single single)]
    by_cases carriage : c = '\r'
    · rw [unifyNewlines, if_pos carriage, feed, ih]
      exact single
    · have other (now : c = '\r') : (unifyNewlines rest).head? ≠ some '\n' := absurd now carriage
      rw [unifyNewlines_cons carriage, lines_cons_boundary ends other, ih]
  | case4 c rest _ inside _ ih | case5 c rest _ inside _ _ _ ih =>
    have other : c ≠ '\r' := by
      rintro rfl
      exact inside (by decide)
    rw [unifyNewlines_cons other, lines_cons_inner inside, lines_cons_inner inside, ih]

theorem split_cons_of_ne (other : c ≠ separator) (cs : List Char) :
    split separator (c :: cs) = (split separator cs).modifyHead (c :: ·) := by
  obtain ⟨part, more, parts⟩ := List.exists_cons_of_ne_nil (split_ne_nil separator cs)
  rw [split, if_neg other, parts, List.modifyHead_cons]

theorem split_eq_splitOn (separator : Char) (cs : List Char) : split separator cs = cs.splitOn separator := by
  induction cs with
  | nil => rfl
  | cons c rest ih =>
    rw [List.splitOn_cons_eq_if_modifyHead, ← ih]
    by_cases same : c = separator
    · rw [split, if_pos same, if_pos (beq_iff_eq.mpr same)]
    · rw [split_cons_of_ne same, if_neg (mt beq_iff_eq.mp same)]

/-- There is one part more than there are separators. -/
theorem length_split (separator : Char) (cs : List Char) : (split separator cs).length = cs.count separator + 1 := by
  induction cs with
  | nil => rfl
  | cons c rest ih =>
    by_cases same : c = separator
    · rw [split, if_pos same, List.length_cons, ih, same, List.count_cons_self]
    · rw [split_cons_of_ne same, List.length_modifyHead, ih, List.count_cons_of_ne same]

/-- Fields without a separator in them are told apart again when they are joined by it. -/
theorem split_intercalate {fields : List (List Char)} (some : fields ≠ [])
    (plain : ∀ field ∈ fields, separator ∉ field) :
    split separator ([separator].intercalate fields) = fields := by
  rw [split_eq_splitOn, List.splitOn_intercalate separator plain some]

theorem mem_of_mem_split {part : List Char} (member : part ∈ split separator cs) :
    separator ∉ part ∧ ∀ c ∈ part, c ∈ cs := by
  induction cs generalizing part with
  | nil =>
    cases List.mem_singleton.mp member
    exact ⟨List.not_mem_nil, nofun⟩
  | cons c rest ih =>
    have further {other : List Char} (there : other ∈ split separator rest) :
        separator ∉ other ∧ ∀ d ∈ other, d ∈ c :: rest :=
      ⟨(ih there).1, fun d own => List.mem_cons_of_mem c ((ih there).2 d own)⟩
    by_cases same : c = separator
    · rw [split, if_pos same] at member
      rcases List.mem_cons.mp member with rfl | later
      · exact ⟨List.not_mem_nil, nofun⟩
      · exact further later
    · obtain ⟨first, more, parts⟩ := List.exists_cons_of_ne_nil (split_ne_nil separator rest)
      rw [split_cons_of_ne same, parts, List.modifyHead_cons] at member
      rw [parts] at further
      rcases List.mem_cons.mp member with rfl | later
      · obtain ⟨absent, own⟩ := further (List.mem_cons_self ..)
        exact ⟨List.not_mem_cons_of_ne_of_not_mem (Ne.symm same) absent,
          List.forall_mem_cons.mpr ⟨List.mem_cons_self .., own⟩⟩
      · exact further (List.mem_cons_of_mem _ later)

theorem exists_mem_split (other : c ≠ separator) (member : c ∈ cs) : ∃ part ∈ split separator cs, c ∈ part := by
  induction cs with
  | nil => cases member
  | cons d rest ih =>
    by_cases same : d = separator
    · have later : c ∈ rest := (List.mem_cons.mp member).resolve_left fun here => other (here.trans same)
      obtain ⟨part, among, inside⟩ := ih later
      rw [split, if_pos same]
      exact ⟨part, List.mem_cons_of_mem _ among, inside⟩
    · obtain ⟨first, more, parts⟩ := List.exists_cons_of_ne_nil (split_ne_nil separator rest)
      rw [split_cons_of_ne same, parts, List.modifyHead_cons]
      rw [parts] at ih
      rcases List.mem_cons.mp member with rfl | later
      · exact ⟨_, List.mem_cons_self .., List.mem_cons_self ..⟩
      · obtain ⟨part, among, inside⟩ := ih later
        rcases List.mem_cons.mp among with rfl | behind
        · exact ⟨_, List.mem_cons_self .., List.mem_cons_of_mem _ inside⟩
        · exact ⟨part, List.mem_cons_of_mem _ behind, inside⟩

theorem strip_sublist (cs : List Char) : (strip cs).Sublist cs := by
  have front : (cs.dropWhile isBlank).Sublist cs := (List.dropWhile_suffix isBlank).sublist
  have ended : (dropWhileEnd isBlank (cs.dropWhile isBlank)).Sublist (cs.dropWhile isBlank) := by
    rw [← List.reverse_sublist, dropWhileEnd, List.reverse_reverse]
    exact (List.dropWhile_suffix isBlank).sublist
  exact ended.trans front

theorem dropWhile_of_head (first : ∀ c ∈ cs.head?, ¬ isBlank c) : cs.dropWhile isBlank = cs := by
  cases cs with
  | nil => rfl
  | cons c rest => exact List.dropWhile_cons_of_neg (first c rfl)

/-- Only a text with a blank at an end of it is changed. -/
theorem strip_eq_self_iff :
    strip cs = cs ↔ (∀ c ∈ cs.head?, ¬ isBlank c) ∧ ∀ c ∈ cs.getLast?, ¬ isBlank c := by
  constructor
  · intro same
    constructor
    · intro c first blank
      obtain ⟨rest, rfl⟩ := List.head?_eq_some_iff.mp first
      have shorter := (strip_sublist rest).length_le
      rw [← strip_cons blank, same, List.length_cons] at shorter
      omega
    · intro c last blank
      obtain ⟨rest, rfl⟩ := List.getLast?_eq_some_iff.mp last
      have shorter := (strip_sublist rest).length_le
      rw [← strip_concat blank, same, List.length_append, List.length_singleton] at shorter
      omega
  · rintro ⟨first, last⟩
    rw [← List.head?_reverse] at last
    rw [strip, dropWhile_of_head first, dropWhileEnd, dropWhile_of_head last, List.reverse_reverse]

section
variable (solid : ¬ isBlank separator)
include solid

theorem ne_of_solid (blank : isBlank c) : c ≠ separator := by
  rintro rfl
  exact solid blank

theorem map_strip_split_cons (blank : isBlank c) (cs : List Char) :
    (split separator (c :: cs)).map strip = (split separator cs).map strip := by
  obtain ⟨part, more, parts⟩ := List.exists_cons_of_ne_nil (split_ne_nil separator cs)
  rw [split_cons_of_ne (ne_of_solid solid blank), parts, List.modifyHead_cons, List.map_cons, strip_cons blank,
    List.map_cons]

omit solid in
theorem split_concat_of_ne (other : c ≠ separator) (cs : List Char) :
    ∃ front last, split separator cs = front ++ [last] ∧
      split separator (cs ++ [c]) = front ++ [last ++ [c]] := by
  induction cs with
  | nil => exact ⟨[], [], rfl, by rw [List.nil_append, split_cons_of_ne other]; rfl⟩
  | cons d rest ih =>
    obtain ⟨front, last, before, after⟩ := ih
    by_cases same : d = separator
    · refine ⟨[] :: front, last, ?_, ?_⟩
      · rw [split, if_pos same, before, List.cons_append]
      · rw [List.cons_append, split, if_pos same, after, List.cons_append]
    · rw [List.cons_append, split_cons_of_ne same, split_cons_of_ne same, before, after]
      cases front with
      | nil => exact ⟨[], d :: last, rfl, rfl⟩
      | cons part more => exact ⟨(d :: part) :: more, last, rfl, rfl⟩

theorem map_strip_split_concat (blank : isBlank c) (cs : List Char) :
    (split separator (cs ++ [c])).map strip = (split separator cs).map strip := by
  obtain ⟨front, last, before, after⟩ := split_concat_of_ne (ne_of_solid solid blank) cs
  rw [before, after, List.map_append, List.map_append, List.map_singleton, strip_concat blank,
    List.map_singleton]

/-- The fields of a stripped text are, without the blanks around them, those of the text itself. -/
theorem map_strip_split_strip (cs : List Char) :
    (split separator (strip cs)).map strip = (split separator cs).map strip := by
  have ended (cs : List Char) :
      (split separator (dropWhileEnd isBlank cs)).map strip = (split separator cs).map strip := by
    -- blanks go from the end one by one, each out of the last field
    induction cs using List.reverseRecOn with
    | nil => rfl
    | append_singleton rest c ih =>
      cases blank : isBlank c with
      | true => rw [dropWhileEnd_concat blank, ih, map_strip_split_concat solid blank]
      | false => rw [dropWhileEnd_concat_self (by simp [blank])]
  rw [strip, ended]
  induction cs with
  | nil => rfl
  | cons c rest ih =>
    cases blank : isBlank c with
    | true => rw [List.dropWhile_cons_of_pos blank, ih, map_strip_split_cons solid blank]
    | false => rw [List.dropWhile_cons_of_neg (by simp [blank])]

end

end Rirekisho.Text
