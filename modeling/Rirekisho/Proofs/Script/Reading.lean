import Rirekisho.Proofs.Text.Strip
import Rirekisho.Script.Reader

namespace Rirekisho.Script

/-- The word that a line begins with: its first field, without the blanks around it. -/
def firstWord (line : List Char) : String := String.ofList (Text.strip (line.takeWhile (· ≠ ',')))

theorem comma_passes (c : Char) (blank : Text.isBlank c) : decide (c ≠ ',') = true := by
  rw [decide_eq_true_eq]
  rintro rfl
  exact absurd blank (by decide)

theorem firstWord_eq (line : List Char) :
    String.ofList (((Text.split ',' (Text.strip line)).map Text.strip).headD []) = firstWord line := by
  obtain ⟨part, more, parts⟩ :=
    List.exists_cons_of_ne_nil (Text.split_ne_nil ',' (Text.strip line))
  have first := Text.split_head ',' (Text.strip line)
  simp only [parts, List.head_cons] at first
  rw [parts, List.map_cons, List.headD_cons, first, Text.strip_takeWhile_strip comma_passes, firstWord]

theorem name_of_ofName {word : String} {keyword : Keyword} (known : Keyword.ofName? word = some keyword) :
    keyword.name = word := by
  simpa using List.find?_some known

/-- Every result of the reader has the property. -/
def Yields {ε β : Type} (property : β → Prop) (reader : Except ε β) : Prop :=
  ∀ x, reader = .ok x → property x

section
variable {ε β γ : Type} {property : γ → Prop}

theorem Yields.pure {x : γ} (holds : property x) : Yields property (Pure.pure x : Except ε γ) := by
  rintro _ ⟨⟩
  exact holds

theorem Yields.bind {reader : Except ε β} {next : β → Except ε γ}
    (rest : ∀ x, Yields property (next x)) : Yields property (reader >>= next) := by
  cases reader with
  | error e => exact nofun
  | ok x => exact rest x

theorem Yields.unless {stops : Prop} [Decidable stops] {e : ε} {next : Unit → Except ε γ}
    (rest : Yields property (next ())) :
    Yields property (if stops then (throw e : Except ε Unit) >>= next else next ()) := by
  split
  · exact nofun
  · exact rest

end

/-- A directive is of the kind that its keyword says. -/
theorem readDirective_keyword (keyword : Keyword) (fields : Fields) :
    Yields (fun directive => directive.keyword = keyword) (readDirective keyword fields) := by
  cases keyword with
  | newPage => exact .pure rfl
  | polyline =>
    exact .bind fun _ => .unless (.bind fun _ => .unless (.unless
      (.bind fun _ => .bind fun _ => .pure rfl)))
  | photo | multiLines | yearMonthBox | miscBox => exact .bind fun _ => .pure rfl
  | _ => exact .bind fun _ => .bind fun _ => .pure rfl

/-- A line tells its number and its first word, with its command or with what is wrong with it. -/
theorem readLine_place (number : Int) (line : List Char) :
    match readLine number line with
    | .error e => e.line = some number ∧ e.keyword = some (firstWord line)
    | .ok none => True
    | .ok (some command) =>
      command.line = some number ∧ command.directive.keyword.name = firstWord line := by
  simp only [readLine, firstWord_eq]
  by_cases passed : Text.strip line = [] ∨ (Text.strip line).head? = some '#'
  · rw [if_pos passed]
    trivial
  · rw [if_neg passed]
    cases known : Keyword.ofName? (firstWord line) with
    | none => exact ⟨rfl, rfl⟩
    | some keyword =>
      dsimp only
      generalize Fields.ofList _ = fields
      cases yielded : readDirective keyword fields with
      | error e => exact ⟨rfl, rfl⟩
      | ok directive =>
        have kind := readDirective_keyword keyword fields directive yielded
        exact ⟨rfl, (congrArg Keyword.name kind).trans (name_of_ofName known)⟩

theorem readLine_error {number : Int} {line : List Char} {e : Located Fault}
    (unread : readLine number line = .error e) :
    e.line = some number ∧ e.keyword = some (firstWord line) := by
  have place := readLine_place number line
  rwa [unread] at place

theorem readLine_some {number : Int} {line : List Char} {command : Command Float}
    (read : readLine number line = .ok (some command)) :
    command.line = some number ∧ command.directive.keyword.name = firstWord line := by
  have place := readLine_place number line
  rwa [read] at place

theorem readLines_cons {number : Nat} {line : List Char} {rest : List (List Char)}
    {command : Option (Command Float)} {commands : List (Command Float)}
    (first : readLine number line = .ok command) (others : readLines (number + 1) rest = .ok commands) :
    readLines number (line :: rest) = .ok (command.toList ++ commands) := by
  simp only [readLines, first, others]

/-- Lines that can be read are read one by one. -/
theorem of_readLines_cons {number : Nat} {line : List Char} {rest : List (List Char)}
    {commands : List (Command Float)} (read : readLines number (line :: rest) = .ok commands) :
    ∃ command others, readLine number line = .ok command ∧ readLines (number + 1) rest = .ok others ∧
      commands = command.toList ++ others := by
  cases first : readLine number line with
  | error e => simp [readLines, first] at read
  | ok command =>
    cases later : readLines (number + 1) rest with
    | error e => simp [readLines, first, later] at read
    | ok others =>
      rw [readLines_cons first later] at read
      exact ⟨command, others, rfl, rfl, (Except.ok.inj read).symm⟩

/-- When the lines cannot be read, one of them is to blame, and those before it can be read. -/
theorem readLines_error {number : Nat} {lines : List (List Char)} {e : Located Fault}
    (unread : readLines number lines = .error e) :
    ∃ earlier line later commands, lines = earlier ++ line :: later ∧
      readLines number earlier = .ok commands ∧
      readLine ((number + earlier.length : Nat) : Int) line = .error e := by
  induction lines generalizing number with
  | nil => cases unread
  | cons line rest ih =>
    cases first : readLine number line with
    | error other =>
      simp only [readLines, first] at unread
      cases unread
      exact ⟨[], line, rest, [], rfl, rfl, first⟩
    | ok command =>
      cases others : readLines (number + 1) rest with
      | ok commands => simp [readLines, first, others] at unread
      | error other =>
        simp only [readLines, first, others] at unread
        cases unread
        obtain ⟨earlier, culprit, later, commands, split, done, failed⟩ := ih others
        refine ⟨line :: earlier, culprit, later, _, by rw [split]; rfl, readLines_cons first done, ?_⟩
        rwa [Nat.add_right_comm] at failed

/-- Every command stands on a line, and the lines before it are those of the commands before. -/
theorem readLines_ok {number : Nat} {lines : List (List Char)} {before after : List (Command Float)}
    {command : Command Float} (read : readLines number lines = .ok (before ++ command :: after)) :
    ∃ earlier line later, lines = earlier ++ line :: later ∧
      readLines number earlier = .ok before ∧
      readLine ((number + earlier.length : Nat) : Int) line = .ok (some command) := by
  induction lines generalizing number before with
  | nil => simp [readLines] at read
  | cons line rest ih =>
    obtain ⟨found, commands, first, others, whole⟩ := of_readLines_cons read
    -- the induction counts the lines from the next one on
    have further {more : List (Command Float)} (same : before = found.toList ++ more)
        (split : commands = more ++ command :: after) :
        ∃ earlier own later, line :: rest = earlier ++ own :: later ∧
          readLines number earlier = .ok before ∧
          readLine ((number + earlier.length : Nat) : Int) own = .ok (some command) := by
      obtain ⟨earlier, own, later, parted, done, mine⟩ := ih (split ▸ others)
      refine ⟨line :: earlier, own, later, by rw [parted]; rfl, ?_, ?_⟩
      · rw [readLines_cons first done, same]
      · rwa [Nat.add_right_comm] at mine
    cases found with
    | none => exact further rfl whole.symm
    | some c =>
      cases before with
      | nil =>
        cases whole
        exact ⟨[], line, rest, rfl, rfl, first⟩
      | cons d more =>
        cases whole
        exact further rfl rfl

/-- No command is made up: each of them stands on a line. -/
theorem readLine_of_mem {number : Nat} {lines : List (List Char)} {commands : List (Command Float)}
    {command : Command Float} (read : readLines number lines = .ok commands) (member : command ∈ commands) :
    ∃ earlier line later, lines = earlier ++ line :: later ∧
      readLine ((number + earlier.length : Nat) : Int) line = .ok (some command) := by
  obtain ⟨before, after, rfl⟩ := List.append_of_mem member
  obtain ⟨earlier, line, later, parts, -, own⟩ := readLines_ok read
  exact ⟨earlier, line, later, parts, own⟩

end Rirekisho.Script
