import Rirekisho.Proofs.Text.Line

namespace Rirekisho.Text

/-- How many times a line is ended by a line feed, by a carriage return, or by one before the other. -/
def newlines (cs : List Char) : Nat := (unifyNewlines cs).count '\n'

/-- The character ends a line, and is neither a line feed nor a carriage return. -/
def isSeparator (c : Char) : Bool := isBoundary c && c != '\n' && c != '\r'

/-- How many times a line is ended by another character. -/
def separators (cs : List Char) : Nat := cs.countP isSeparator

example : newlines "a\r\n\x0c\r".toList = 2 ∧ separators "a\r\n\x0c\r".toList = 1 := by decide

/-- A line can begin between the two texts: nothing is before it, or the whole end of another line is. -/
structure Parted (before rest : List Char) : Prop where
  ended : ∀ c ∈ before.getLast?, isBoundary c
  single : before.getLast? = some '\r' → rest.head? ≠ some '\n'

/-- The line stands in the text between the two others, from its beginning to its end. -/
structure LineAt (cs before line after : List Char) : Prop where
  whole : cs = before ++ (line ++ after)
  begun : Parted before (line ++ after)
  inside : ∀ c ∈ line, ¬ isBoundary c
  ended : ∀ c ∈ after.head?, isBoundary c
  there : line ++ after ≠ []

variable {before rest line after cs : List Char} {c : Char}

theorem newlines_cons (single : c = '\r' → cs.head? ≠ some '\n') :
    newlines (c :: cs) = newlines cs + if c = '\n' ∨ c = '\r' then 1 else 0 := by
  by_cases carriage : c = '\r'
  · have unified : unifyNewlines (c :: cs) = '\n' :: unifyNewlines cs := by
      rw [unifyNewlines, if_pos carriage]
      rintro more rfl rfl
      exact single rfl rfl
    rw [newlines, unified, List.count_cons_self, if_pos (Or.inr carriage), newlines]
  · simp only [newlines, unifyNewlines_cons carriage, List.count_cons, beq_iff_eq, carriage, or_false]

theorem isBoundary_iff : isBoundary c ↔ (c = '\n' ∨ c = '\r') ∨ isSeparator c := by
  have known : isBoundary '\n' = true ∧ isBoundary '\r' = true := by decide
  simp only [isSeparator, Bool.and_eq_true, bne_iff_ne]
  constructor
  · intro ends
    by_cases newline : c = '\n' ∨ c = '\r'
    · exact Or.inl newline
    · rw [not_or] at newline
      exact Or.inr ⟨⟨ends, newline.1⟩, newline.2⟩
  · rintro ((rfl | rfl) | ⟨⟨ends, _⟩, _⟩)
    exacts [known.1, known.2, ends]

/-- A boundary adds one to the ends of one of the two sorts, and another character adds nothing. -/
theorem ends_cons (single : c = '\r' → cs.head? ≠ some '\n') :
    newlines (c :: cs) + separators (c :: cs) =
      newlines cs + separators cs + if isBoundary c then 1 else 0 := by
  have apart : c = '\n' ∨ c = '\r' → ¬ isSeparator c := by rintro (rfl | rfl) <;> decide
  rw [newlines_cons single, separators, List.countP_cons, ← separators]
  by_cases newline : c = '\n' ∨ c = '\r'
  · rw [if_pos newline, if_neg (apart newline), if_pos (isBoundary_iff.mpr (Or.inl newline))]
    omega
  · have same : isBoundary c = isSeparator c := Bool.eq_iff_iff.mpr (isBoundary_iff.trans (or_iff_right newline))
    rw [if_neg newline, same]
    omega

namespace Parted

theorem nil (rest : List Char) : Parted [] rest := ⟨nofun, nofun⟩

theorem congr {other : List Char} (same : before.getLast? = other.getLast?) (parted : Parted before rest) :
    Parted other rest :=
  ⟨same ▸ parted.ended, same ▸ parted.single⟩

theorem cons (some : before ≠ []) (parted : Parted before rest) : Parted (c :: before) rest := by
  obtain ⟨d, more, rfl⟩ := List.exists_cons_of_ne_nil some
  exact parted.congr List.getLast?_cons_cons.symm

theorem of_cons (parted : Parted (c :: before) rest) : Parted before rest := by
  cases before with
  | nil => exact .nil rest
  | cons d more => exact parted.congr List.getLast?_cons_cons

theorem ne_nil_of_inner (inner : ¬ isBoundary c) (parted : Parted (c :: before) rest) : before ≠ [] := by
  rintro rfl
  exact inner (parted.ended c rfl)

theorem cons_boundary (ends : isBoundary c) (single : c = '\r' → (before ++ rest).head? ≠ some '\n')
    (parted : Parted before rest) : Parted (c :: before) rest := by
  cases before with
  | nil =>
    refine ⟨?_, fun carriage => single (Option.some.inj carriage)⟩
    rintro e ⟨⟩
    exact ends
  | cons d more => exact parted.cons (List.cons_ne_nil d more)

end Parted

/-- Where a line can begin, the lines before and behind are those of the two texts. -/
theorem lines_append_of_parted (parted : Parted before rest) :
    lines (before ++ rest) = lines before ++ lines rest := by
  induction before using lines.induct with
  | case1 => rfl
  | case2 cs ih =>
    simp only [List.cons_append, lines_cons_pair, ih parted.of_cons.of_cons]
  | case3 c cs single ends ih =>
    have alone := head_ne_of_single single
    have within (carriage : c = '\r') : (cs ++ rest).head? ≠ some '\n' := by
      cases cs with
      | nil => exact parted.single (congrArg some carriage)
      | cons d ds => exact alone carriage
    rw [List.cons_append, lines_cons_boundary ends within, lines_cons_boundary ends alone, ih parted.of_cons,
      List.cons_append]
  | case4 c cs _ inside _ ih | case5 c cs _ inside _ _ _ ih =>
    have some := lines_ne_nil (parted.ne_nil_of_inner inside)
    obtain ⟨line, more, parts⟩ := List.exists_cons_of_ne_nil some
    rw [List.cons_append, lines_cons_inner inside, lines_cons_inner inside, ih parted.of_cons, parts]
    rfl

/-- Where a line can begin, there are as many lines before as there are ends of them. -/
theorem length_lines (parted : Parted before rest) : (lines before).length = newlines before + separators before := by
  induction before using lines.induct with
  | case1 => rfl
  | case2 cs ih =>
    have pair : newlines ('\r' :: '\n' :: cs) = newlines cs + 1 := List.count_cons_self
    have plain : separators ('\r' :: '\n' :: cs) = separators cs := rfl
    rw [lines_cons_pair, List.length_cons, ih parted.of_cons.of_cons, pair, plain]
    omega
  | case3 c cs single ends ih =>
    have alone := head_ne_of_single single
    rw [lines_cons_boundary ends alone, List.length_cons, ih parted.of_cons, ends_cons alone, if_pos ends]
  | case4 c cs single inside none ih | case5 c cs single inside _ _ _ ih =>
    have positive := List.length_pos_iff.mpr (lines_ne_nil (parted.ne_nil_of_inner inside))
    rw [lines_cons_inner inside, List.length_cons, List.length_tail, Nat.sub_add_cancel positive, ih parted.of_cons,
      ends_cons (head_ne_of_single single), if_neg inside, Nat.add_zero]

/-- The first line goes up to the first end of one. -/
theorem lines_first (inside : ∀ c ∈ line, ¬ isBoundary c) (ended : ∀ c ∈ after.head?, isBoundary c)
    (there : line ++ after ≠ []) : ∃ more, lines (line ++ after) = line :: more := by
  induction line with
  | nil =>
    obtain ⟨c, rest, rfl⟩ := List.exists_cons_of_ne_nil there
    by_cases pair : c = '\r' ∧ rest.head? = some '\n'
    · obtain ⟨more, feed⟩ := List.head?_eq_some_iff.mp pair.2
      exact ⟨lines more, by rw [List.nil_append, pair.1, feed, lines_cons_pair]⟩
    · exact ⟨lines rest, lines_cons_boundary (ended c rfl) fun carriage feed => pair ⟨carriage, feed⟩⟩
  | cons c rest ih =>
    rw [List.forall_mem_cons] at inside
    rw [List.cons_append, lines_cons_inner inside.1]
    cases whole : rest ++ after with
    | nil =>
      rw [(List.append_eq_nil_iff.mp whole).1]
      exact ⟨_, rfl⟩
    | cons d ds =>
      obtain ⟨more, first⟩ := ih inside.2 (whole ▸ List.cons_ne_nil d ds)
      rw [← whole, first]
      exact ⟨_, rfl⟩

namespace LineAt

theorem getElem?_lines (place : LineAt cs before line after) :
    (lines cs)[newlines before + separators before]? = some line := by
  obtain ⟨more, first⟩ := lines_first place.inside place.ended place.there
  rw [place.whole, lines_append_of_parted place.begun, first, ← length_lines place.begun,
    List.getElem?_append_right le_rfl, Nat.sub_self]
  rfl

theorem empty (ends : isBoundary c) (cs : List Char) : LineAt (c :: cs) [] [] (c :: cs) where
  whole := rfl
  begun := .nil _
  inside := List.forall_mem_nil _
  ended := by
    rintro d ⟨⟩
    exact ends
  there := List.cons_ne_nil c cs

theorem single (inner : ¬ isBoundary c) : LineAt [c] [] [c] [] where
  whole := rfl
  begun := .nil _
  inside := List.forall_mem_singleton.mpr inner
  ended := nofun
  there := List.cons_ne_nil c []

theorem cons (begun : Parted (c :: before) (line ++ after)) (place : LineAt cs before line after) :
    LineAt (c :: cs) (c :: before) line after :=
  { place with whole := by rw [place.whole, List.cons_append], begun }

theorem cons_first (inner : ¬ isBoundary c) (place : LineAt cs [] line after) :
    LineAt (c :: cs) [] (c :: line) after where
  whole := by rw [place.whole, List.nil_append, List.nil_append, List.cons_append]
  begun := .nil _
  inside := List.forall_mem_cons.mpr ⟨inner, place.inside⟩
  ended := place.ended
  there := List.cons_ne_nil c _

end LineAt

/-- Every line has its place, and the lines before it are those of the text before it. -/
theorem exists_lineAt {earlier later : List (List Char)} (parts : lines cs = earlier ++ line :: later) :
    ∃ before after, LineAt cs before line after ∧ lines before = earlier := by
  induction cs using lines.induct generalizing earlier line with
  | case1 => simp [lines] at parts
  | case2 rest ih =>
    rw [lines_cons_pair] at parts
    cases earlier with
    | nil =>
      cases (List.cons.inj parts).1
      exact ⟨[], '\r' :: '\n' :: rest, .empty (by decide) _, rfl⟩
    | cons first earlier =>
      obtain ⟨rfl, others⟩ := List.cons.inj parts
      obtain ⟨before, after, place, rfl⟩ := ih others
      have begun := place.begun.cons_boundary (by decide) (absurd · (by decide : '\n' ≠ '\r'))
      exact ⟨'\r' :: '\n' :: before, after, (place.cons begun).cons (begun.cons (List.cons_ne_nil _ _)),
        lines_cons_pair before⟩
  | case3 c rest single ends ih =>
    have alone := head_ne_of_single single
    rw [lines_cons_boundary ends alone] at parts
    cases earlier with
    | nil =>
      cases (List.cons.inj parts).1
      exact ⟨[], c :: rest, .empty ends rest, rfl⟩
    | cons first earlier =>
      obtain ⟨rfl, others⟩ := List.cons.inj parts
      obtain ⟨before, after, place, rfl⟩ := ih others
      have within (carriage : c = '\r') : before.head? ≠ some '\n' := by
        intro feed
        refine alone carriage ?_
        rw [place.whole, List.head?_append, feed, Option.some_or]
      have begun := place.begun.cons_boundary ends (place.whole ▸ alone)
      exact ⟨c :: before, after, place.cons begun, lines_cons_boundary ends within⟩
  | case4 c rest _ inner none _ =>
    rw [lines_cons_inner inner, none] at parts
    cases rest with
    | cons d ds => exact absurd none (lines_ne_nil (List.cons_ne_nil d ds))
    | nil =>
      cases earlier with
      | cons first earlier => simp at parts
      | nil =>
        cases parts
        exact ⟨[], [], .single inner, rfl⟩
  | case5 c rest _ inner own more whole ih =>
    rw [lines_cons_inner inner, whole, List.headD_cons, List.tail_cons] at parts
    rw [whole] at ih
    cases earlier with
    | nil =>
      cases parts
      obtain ⟨before, after, place, none⟩ := ih (List.nil_append _).symm
      have first : before = [] := by
        by_contra some
        exact lines_ne_nil some none
      subst first
      exact ⟨[], after, place.cons_first inner, rfl⟩
    | cons first earlier =>
      -- the line before goes on, and with it the text before
      obtain ⟨rfl, others⟩ := List.cons.inj parts
      have split : own :: more = (own :: earlier) ++ line :: later := congrArg (own :: ·) others
      obtain ⟨before, after, place, done⟩ := ih split
      have some : before ≠ [] := by
        rintro rfl
        cases done
      refine ⟨c :: before, after, place.cons (place.begun.cons some), ?_⟩
      rw [lines_cons_inner inner, done]
      rfl

end Rirekisho.Text
