import Rirekisho.Proofs.Script.Spelling

namespace Rirekisho.Script

/-- The line of a command with the fields, between commas. -/
def written (keyword : Keyword) (fields : List String) : String := ",".intercalate (keyword.name :: fields)

/-- Fields as they are read: without the blanks around them. -/
def trimmed (fields : List String) : List (List Char) := fields.map fun field => Text.strip field.toList

/-- The text is no more than one field of one line. -/
structure Fits (text : List Char) : Prop where
  comma : ',' ∉ text
  inner : ∀ c ∈ text, ¬ Text.isBoundary c

instance (text : List Char) : Decidable (Fits text) :=
  decidable_of_iff (',' ∉ text ∧ text.all (!Text.isBoundary ·))
    ⟨fun ⟨comma, inner⟩ => ⟨comma, by simpa using inner⟩, fun fits => ⟨fits.comma, by simpa using fits.inner⟩⟩

theorem mem_intercalate {separator : Char} {parts : List (List Char)} {c : Char}
    (member : c ∈ [separator].intercalate parts) : c = separator ∨ ∃ part ∈ parts, c ∈ part := by
  induction parts with
  | nil => cases member
  | cons part rest ih =>
    cases rest with
    | nil =>
      rw [List.intercalate_singleton] at member
      exact Or.inr ⟨part, List.mem_singleton_self part, member⟩
    | cons next more =>
      rw [List.intercalate_cons_cons, List.mem_append, List.mem_append, List.mem_singleton] at member
      rcases member with (here | between) | later
      · exact Or.inr ⟨part, List.mem_cons_self .., here⟩
      · exact Or.inl between
      · exact (ih later).imp_right fun ⟨other, there, own⟩ => ⟨other, List.mem_cons_of_mem _ there, own⟩

theorem strip_name (keyword : Keyword) : Text.strip keyword.name.toList = keyword.name.toList := by
  cases keyword <;> decide

theorem trimmed_stripped {fields : List String} : ∀ field ∈ trimmed fields, Text.strip field = field :=
  List.forall_mem_map.mpr fun _ _ => Text.strip_strip _

section
variable (keyword : Keyword) {fields : List String} (fit : ∀ field ∈ fields, Fits field.toList)

theorem toList_written (fields : List String) : (written keyword fields).toList =
    [','].intercalate (keyword.name.toList :: fields.map String.toList) :=
  String.toList_intercalate

include fit

theorem fits_of_mem_written : ∀ part ∈ keyword.name.toList :: fields.map String.toList, Fits part := by
  rw [List.forall_mem_cons, List.forall_mem_map]
  refine ⟨?_, fit⟩
  cases keyword <;> decide

theorem split_written :
    Text.split ',' (written keyword fields).toList = keyword.name.toList :: fields.map String.toList := by
  rw [toList_written]
  exact Text.split_intercalate (List.cons_ne_nil _ _) fun part member =>
    (fits_of_mem_written keyword fit part member).comma

theorem lines_written : Text.lines (written keyword fields).toList = [(written keyword fields).toList] := by
  have some : (written keyword fields).toList ≠ [] := by
    intro empty
    have parts := split_written keyword fit
    rw [empty] at parts
    cases keyword <;> exact absurd (List.cons.inj parts).1 (by decide)
  refine Text.lines_of_inner some fun c member => ?_
  rw [toList_written] at member
  rcases mem_intercalate member with rfl | ⟨part, there, own⟩
  · decide
  · exact (fits_of_mem_written keyword fit part there).inner c own

theorem firstWord_written : firstWord (written keyword fields).toList = keyword.name := by
  rw [← firstWord_eq, Text.map_strip_split_strip comma_solid, split_written keyword fit, List.map_cons,
    List.headD_cons, strip_name, String.ofList_toList]

theorem arguments_written :
    arguments (written keyword fields).toList = trimmed fields := by
  rw [arguments_eq, split_written keyword fit, List.map_cons, List.tail_cons, List.map_map]
  rfl

/-- A written line is read as a script of one command. -/
theorem read_written :
    read (written keyword fields) =
      match readDirective keyword (Fields.ofList (trimmed fields)) with
      | .error e => .error ⟨e.fault, some 1, some keyword.name, some e.field⟩
      | .ok directive => .ok [⟨some 1, directive⟩] := by
  rw [read, lines_written keyword fit]
  simp only [readLines, readLine_keyword (firstWord_written keyword fit), arguments_written keyword fit]
  cases readDirective keyword _ <;> rfl

theorem read_written_eq_ok {commands : List (Command Float)} :
    read (written keyword fields) = .ok commands ↔ ∃ directive,
      readDirective keyword (Fields.ofList (trimmed fields)) = .ok directive ∧ commands = [⟨some 1, directive⟩] := by
  rw [read_written keyword fit]
  cases readDirective keyword _ with
  | error e => exact ⟨nofun, nofun⟩
  | ok directive =>
    constructor
    · rintro ⟨⟩
      exact ⟨directive, rfl, rfl⟩
    · rintro ⟨_, ⟨⟩, rfl⟩
      rfl

end

/-- The options begin with the first field that has the form of one. -/
theorem Fields.ofList_append {front options : List (List Char)} (plain : ∀ field ∈ front, ¬ isOption field)
    (begun : ∀ next ∈ options.head?, isOption next) :
    Fields.ofList (front ++ options) = ⟨front, options.filterMap option?⟩ := by
  have passes : ∀ field ∈ front, (!isOption field) = true := by simpa using plain
  have stops : options.takeWhile (!isOption ·) = [] ∧ options.dropWhile (!isOption ·) = options := by
    cases options with
    | nil => exact ⟨rfl, rfl⟩
    | cons next rest =>
      have given : ¬ (!isOption next) = true := by simp [begun next rfl]
      exact ⟨List.takeWhile_cons_of_neg given, List.dropWhile_cons_of_neg given⟩
  rw [Fields.ofList, List.takeWhile_append_of_pos passes, List.dropWhile_append_of_pos passes, stops.1, stops.2,
    List.append_nil]

theorem positional_trimmed {front options : List String} (plain : ∀ field ∈ front, ¬ isOption field.toList)
    (given : ∀ field ∈ options, isOption field.toList) :
    (Fields.ofList (trimmed (front ++ options))).positional = trimmed front := by
  have fields : ∀ field ∈ trimmed front, ¬ isOption field :=
    List.forall_mem_map.mpr fun field member => by rw [isOption_strip]; exact plain field member
  have behind : ∀ field ∈ trimmed options, isOption field :=
    List.forall_mem_map.mpr fun field member => by rw [isOption_strip]; exact given field member
  have parts : trimmed (front ++ options) = trimmed front ++ trimmed options := List.map_append ..
  rw [parts, Fields.ofList_append fields fun next first => behind next (List.mem_of_mem_head? first)]

end Rirekisho.Script
