import Rirekisho.Proofs.Script.Reading
import Rirekisho.Proofs.Text.Place

namespace Rirekisho

namespace Text

/-- The text is empty, or its last line is ended by a line feed. -/
def Ended (cs : List Char) : Prop := ∀ c ∈ cs.getLast?, c = '\n'

theorem Ended.parted {a : List Char} (ended : Ended a) (b : List Char) : Parted a b where
  ended c own := by
    rw [ended c own]
    decide
  single carriage := absurd (ended '\r' carriage) (by decide)

/-- Behind a line feed a new line begins, whatever ended the lines before. -/
theorem lines_append {a : List Char} (ended : Ended a) (b : List Char) :
    lines (a ++ b) = lines a ++ lines b :=
  lines_append_of_parted (ended.parted b)

end Text

/-- The same cause, with a place so many lines further down. -/
def Located.below {ε : Type} (n : Nat) (e : Located ε) : Located ε :=
  { e with line := e.line.map (· + (n : Int)) }

/-- The same command, so many lines further down. -/
def Command.below {α : Type} (n : Nat) (command : Command α) : Command α :=
  { command with line := command.line.map (· + (n : Int)) }

namespace Script

/-- What a line says does not depend on its number, but for the number itself. -/
theorem readLine_below (number n : Nat) (line : List Char) :
    readLine (number + n : Nat) line =
      ((readLine number line).map (Option.map (Command.below n))).mapError (Located.below n) := by
  simp only [readLine, Int.natCast_add]
  split
  · rfl
  · cases Keyword.ofName? _ with
    | none => rfl
    | some keyword =>
      dsimp only
      cases readDirective keyword _ <;> rfl

theorem readLines_below (number n : Nat) (lines : List (List Char)) :
    readLines (number + n) lines =
      ((readLines number lines).map (List.map (Command.below n))).mapError (Located.below n) := by
  induction lines generalizing number with
  | nil => rfl
  | cons line rest ih =>
    have others := ih (number + 1)
    rw [Nat.add_right_comm] at others
    simp only [readLines, readLine_below, others]
    cases readLine number line with
    | error e => rfl
    | ok command =>
      cases readLines (number + 1) rest with
      | error e => rfl
      | ok commands => cases command <;> rfl

theorem readLines_append (number : Nat) (lines more : List (List Char)) :
    readLines number (lines ++ more) =
      match readLines number lines, readLines (number + lines.length) more with
      | .error e, _ => .error e
      | .ok _, .error e => .error e
      | .ok first, .ok later => .ok (first ++ later) := by
  induction lines generalizing number with
  | nil =>
    simp only [List.nil_append, readLines]
    cases readLines _ more <;> rfl
  | cons line rest ih =>
    rw [List.length_cons, Nat.add_comm rest.length 1, ← Nat.add_assoc]
    simp only [List.cons_append, readLines, ih]
    cases readLine number line with
    | error e => rfl
    | ok command =>
      cases readLines (number + 1) rest with
      | error e => rfl
      | ok first =>
        cases readLines (number + 1 + rest.length) more with
        | error e => rfl
        | ok later => simp only [List.append_assoc]

theorem readLines_numbered {number : Nat} {lines : List (List Char)} {commands : List (Command Float)}
    (read : readLines number lines = .ok commands) : ∀ command ∈ commands, command.line.isSome := by
  intro command member
  obtain ⟨_, _, _, _, own⟩ := readLine_of_mem read member
  rw [(readLine_some own).1]
  rfl

/-- Behind a line feed a script is read as if it stood alone, but for its numbers. -/
theorem read_append_of_ended {a : String} (ended : Text.Ended a.toList) (b : String) :
    read (a ++ b) = match read a, read b with
      | .error e, _ => .error e
      | .ok _, .error e => .error (e.below (Text.lines a.toList).length)
      | .ok first, .ok later => .ok (first ++ later.map (·.below (Text.lines a.toList).length)) := by
  have parted : read (a ++ b) = readLines 1 (Text.lines a.toList ++ Text.lines b.toList) := by
    rw [read, String.toList_append, Text.lines_append ended]
  rw [parted, readLines_append, readLines_below]
  simp only [read]
  cases readLines 1 (Text.lines a.toList) with
  | error e => rfl
  | ok first => cases readLines 1 (Text.lines b.toList) <;> rfl

/-- A script that ends with a line feed or is empty, and another one after it: the first fault of the two
is told, with the number of its line in the whole; without faults the commands follow each other, those of
the second script with the numbers of their lines in the whole. All of them have such numbers. -/
theorem read_append {a : String} (ended : Text.Ended a.toList) (b : String) :
    let n := (Text.lines a.toList).length
    (read (a ++ b) = match read a, read b with
      | .error e, _ => .error e
      | .ok _, .error e => .error (e.below n)
      | .ok first, .ok later => .ok (first ++ later.map (·.below n))) ∧
    (∀ e, read b = .error e → e.line.isSome) ∧
      ∀ later, read b = .ok later → ∀ command ∈ later, command.line.isSome := by
  intro n
  refine ⟨read_append_of_ended ended b, ?_, fun later => readLines_numbered⟩
  intro e unread
  obtain ⟨_, _, _, _, _, _, stopped⟩ := readLines_error unread
  rw [(readLine_error stopped).1]
  rfl

/-- Behind three lines, of which the second is a comment, a line with a field too few is the fourth. -/
theorem read_append_missing :
    let a := "new_page\r\n# the first page\u2028\n"
    let b := "line, 0, 0, 5"
    let e (number : Int) : Located Fault := ⟨.missingField, some number, some "line", some "y2"⟩
    Text.Ended a.toList ∧ read b = .error (e 1) ∧ read (a ++ b) = .error (e 4) := by
  intro a b e
  have ended : Text.Ended a.toList := by
    rintro c last
    rw [show a.toList.getLast? = some '\n' by decide] at last
    exact (Option.some.inj last).symm
  have missing : read b = .error (e 1) := by
    unfold b
    rfl
  have first : read a = .ok [⟨some 1, .newPage⟩] := by
    unfold a
    rfl
  have three : (Text.lines a.toList).length = 3 := by decide
  have whole := (read_append ended b).1
  rw [first, missing, three] at whole
  exact ⟨ended, missing, whole⟩

end Script

end Rirekisho
