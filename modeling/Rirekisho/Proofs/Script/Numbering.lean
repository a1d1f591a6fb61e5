import Rirekisho.Proofs.Script.Append

namespace Rirekisho

namespace Text

theorem newlines_of_feeds {cs : List Char} (feeds : '\r' ∉ cs) : newlines cs = cs.count '\n' := by
  rw [newlines, unifyNewlines_of_feeds feeds]

end Text

namespace Script

/-- The line stands in the script, and has the number that the ends of lines before it give. -/
def Numbered (script : String) (number : Nat) (line : List Char) : Prop :=
  ∃ before after, Text.LineAt script.toList before line after ∧
    number = 1 + Text.newlines before + Text.separators before

variable {script : String} {number : Nat} {line : List Char}

theorem numbered_of_lines {earlier later : List (List Char)}
    (parts : Text.lines script.toList = earlier ++ line :: later) : Numbered script (1 + earlier.length) line := by
  obtain ⟨before, after, place, rfl⟩ := Text.exists_lineAt parts
  exact ⟨before, after, place, by rw [Text.length_lines place.begun, Nat.add_assoc]⟩

theorem Numbered.getElem?_lines (numbered : Numbered script number line) :
    ∃ i, number = 1 + i ∧ (Text.lines script.toList)[i]? = some line := by
  obtain ⟨before, after, place, rfl⟩ := numbered
  exact ⟨_, Nat.add_assoc .., place.getElem?_lines⟩

/-- No line is left out. -/
theorem mem_of_readLine {lines : List (List Char)} {commands : List (Command Float)} {command : Command Float}
    {i : Nat} (read : readLines number lines = .ok commands) (there : lines[i]? = some line)
    (own : readLine ((number + i : Nat) : Int) line = .ok (some command)) : command ∈ commands := by
  induction lines generalizing number i commands with
  | nil => cases there
  | cons first rest ih =>
    obtain ⟨found, more, told, others, rfl⟩ := of_readLines_cons read
    cases i with
    | zero =>
      cases there
      cases told.symm.trans own
      exact List.mem_cons_self ..
    | succ i =>
      rw [← Nat.add_assoc, Nat.add_right_comm] at own
      exact List.mem_append_right _ (ih others there own)

theorem toList_comment (c : String) : ("#" ++ c ++ "\n").toList = '#' :: c.toList ++ ['\n'] := by
  rw [String.toList_append, String.toList_append]
  rfl

theorem ended_comment (c : String) : Text.Ended ("#" ++ c ++ "\n").toList := by
  rw [toList_comment]
  rintro d last
  rw [List.getLast?_concat] at last
  exact (Option.some.inj last).symm

section
variable {c : String} (carriage : '\r' ∉ c.toList) (feed : '\n' ∉ c.toList)
include carriage feed

/-- A comment that ends with a line feed is as many lines as there are ends of them in it. -/
theorem length_lines_comment : (Text.lines ("#" ++ c ++ "\n").toList).length = 1 + Text.separators c.toList := by
  have feeds : '\r' ∉ '#' :: c.toList ++ ['\n'] := by simp [carriage]
  have one : ('#' :: c.toList ++ ['\n']).count '\n' = 1 := by simp [List.count_eq_zero.mpr feed]
  have others : Text.separators ('#' :: c.toList ++ ['\n']) = Text.separators c.toList := by
    rw [Text.separators, List.countP_append, List.countP_cons]
    rfl
  have parted := (ended_comment c).parted []
  rw [toList_comment] at parted ⊢
  rw [Text.length_lines parted, Text.newlines_of_feeds feeds, one, others]

theorem read_comment (plain : Text.separators c.toList = 0) : read ("#" ++ c ++ "\n") = .ok [] := by
  have inside : ∀ d ∈ '#' :: c.toList, ¬ Text.isBoundary d := by
    rw [List.forall_mem_cons]
    refine ⟨by decide, fun d own ends => ?_⟩
    rcases Text.isBoundary_iff.mp ends with (rfl | rfl) | separator
    exacts [feed own, carriage own, List.countP_eq_zero.mp plain d own separator]
  have length := length_lines_comment carriage feed
  have ended : ∀ d ∈ ['\n'].head?, Text.isBoundary d := by
    rintro d ⟨⟩
    decide
  obtain ⟨more, first⟩ := Text.lines_first inside ended nofun
  rw [toList_comment, first, plain, List.length_cons, Nat.add_comm, Nat.add_left_cancel_iff] at length
  have skipped : readLine ((1 : Nat) : Int) ('#' :: c.toList) = .ok none :=
    if_pos (Or.inr (Text.strip_head (by decide)))
  rw [read, toList_comment, first, List.length_eq_zero_iff.mp length, readLines, skipped]
  rfl

end

/-- The commands of a script are those of its lines, each with the number of its own one, and a fault is that of
a line with its number. It is the number in the file but for the characters that end a line without being a line
feed or a carriage return; and a comment is skipped, whatever comes after it, if and only if none of these is in
it. -/
theorem read_numbered (script c : String) :
    (∀ commands, read script = .ok commands → ∀ command, command ∈ commands ↔
      ∃ number line, Numbered script number line ∧ command.line = some (number : Int) ∧
        readLine number line = .ok (some command)) ∧
    (∀ e, read script = .error e → ∃ number line, Numbered script number line ∧
      e.line = some (number : Int) ∧ readLine number line = .error e) ∧
    ('\r' ∉ c.toList → '\n' ∉ c.toList →
      ((∀ rest, read ("#" ++ c ++ "\n" ++ rest) =
        ((read rest).map (List.map (Command.below 1))).mapError (Located.below 1)) ↔
          Text.separators c.toList = 0)) := by
  refine ⟨?_, ?_, ?_⟩
  · intro commands told command
    constructor
    · intro member
      obtain ⟨earlier, line, later, parts, own⟩ := readLine_of_mem told member
      exact ⟨_, line, numbered_of_lines parts, (readLine_some own).1, own⟩
    · rintro ⟨number, line, numbered, _, own⟩
      obtain ⟨i, rfl, there⟩ := numbered.getElem?_lines
      exact mem_of_readLine told there own
  · intro e told
    obtain ⟨earlier, line, later, _, parts, _, stopped⟩ := readLines_error told
    exact ⟨_, line, numbered_of_lines parts, (readLine_error stopped).1, stopped⟩
  · intro carriage feed
    have length := length_lines_comment carriage feed
    constructor
    · intro shifted
      -- a command right behind the comment tells how many lines that is
      have next : read "new_page" = .ok [⟨some 1, .newPage⟩] := rfl
      have whole := read_append_of_ended (ended_comment c) "new_page"
      rw [shifted, next, length] at whole
      cases comment : read ("#" ++ c ++ "\n") with
      | error e => simp [comment, Except.map, Except.mapError] at whole
      | ok commands =>
        rw [comment] at whole
        have same := congrArg List.getLast? (Except.ok.inj whole)
        rw [List.map_singleton, List.map_singleton, List.getLast?_concat] at same
        have number : (2 : Int) = 1 + (1 + Text.separators c.toList : Nat) := by
          simpa [Command.below] using same
        omega
    · intro plain rest
      have whole := read_append_of_ended (ended_comment c) rest
      rw [length, plain, read_comment carriage feed plain] at whole
      rw [whole]
      cases read rest <;> rfl

/-- A command on the third line, and one line further down behind another comment. -/
theorem read_numbered_third :
    let script := "# first\r\n\rnew_page"
    read script = .ok [⟨some 3, .newPage⟩] ∧ Text.separators "new_page".toList = 0 ∧
      (∃ number line, Numbered script number line ∧ some 3 = some (number : Int) ∧
        readLine number line = .ok (some ⟨some 3, .newPage⟩)) ∧
      read ("#" ++ "new_page" ++ "\n" ++ script) = .ok [⟨some 4, .newPage⟩] := by
  intro script
  have told : read script = .ok [⟨some 3, .newPage⟩] := by
    unfold script
    rfl
  have plain : Text.separators "new_page".toList = 0 := by decide
  obtain ⟨commands, -, comment⟩ := read_numbered script "new_page"
  have shifted := (comment (by decide) (by decide)).mpr plain script
  rw [told] at shifted
  exact ⟨told, plain, (commands _ told _).mp (List.mem_singleton_self _), shifted⟩

/-- What comes after a vertical tab in a comment is a command, and the form feed before a command counts as a line,
though no line of the file ends there. -/
theorem read_torn_comment :
    read "" = .ok [] ∧ read "#\x0bnew_page\n" = .ok [⟨some 2, .newPage⟩] ∧
      read "\x0cnew_page" = .ok [⟨some 2, .newPage⟩] ∧ Text.newlines "#\x0b".toList = 0 ∧
      Text.newlines "\x0c".toList = 0 := by
  have torn : read "#\x0bnew_page\n" = .ok [⟨some 2, .newPage⟩] := rfl
  have moved : read "\x0cnew_page" = .ok [⟨some 2, .newPage⟩] := rfl
  exact ⟨rfl, torn, moved, by decide, by decide⟩

end Script

end Rirekisho
