import Rirekisho.Proofs.Script.Written

namespace Rirekisho.Script

/-- The text begins with a key and an equals sign right behind it. -/
def Keyed (text : List Char) : Prop :=
  ∃ first key value, text = first :: key ++ '=' :: value ∧ isKeyStart first ∧ ∀ c ∈ key, isKeyPart c

/-- A text that a field of a script can hold as it is. -/
structure Expressible (text : List Char) : Prop extends Fits text where
  begun : ∀ c ∈ text.head?, ¬ Text.isBlank c
  ended : ∀ c ∈ text.getLast?, ¬ Text.isBlank c
  keyless : ¬ Keyed text

theorem Expressible.strip {text : List Char} (expressible : Expressible text) : Text.strip text = text :=
  Text.strip_eq_self_iff.mpr ⟨expressible.begun, expressible.ended⟩

/-- A text on one line has the form of an option when it begins with a key. -/
theorem option?_isSome_iff {text : List Char} (inner : ∀ c ∈ text, ¬ Text.isBoundary c) :
    (option? text).isSome ↔ Keyed text := by
  unfold option?
  constructor
  · intro given
    split at given
    next first key value word rest =>
      split at given
      next keyed =>
        have all : ∀ c ∈ first :: key, isKeyPart c := by
          rw [← word]
          exact fun c member => List.mem_takeWhile_imp member
        refine ⟨first, key, value, ?_, (Bool.and_eq_true _ _ ▸ keyed).1, (List.forall_mem_cons.mp all).2⟩
        rw [← word, ← rest, List.takeWhile_append_dropWhile]
      next => cases given
    next => cases given
  · rintro ⟨first, key, value, rfl, begins, parts⟩
    have all : ∀ c ∈ first :: key, isKeyPart c = true :=
      List.forall_mem_cons.mpr ⟨by simp [isKeyPart, begins], parts⟩
    have ends : ¬ isKeyPart '=' := by decide
    have single : '\n' ∉ value := fun member =>
      inner '\n' (List.mem_append_right _ (List.mem_cons_of_mem _ member)) (by decide)
    rw [List.takeWhile_append_of_pos all, List.dropWhile_append_of_pos all, List.takeWhile_cons_of_neg ends,
      List.dropWhile_cons_of_neg ends, List.append_nil]
    simp [begins, single]

theorem isOption_iff {text : List Char} (stripped : Text.strip text = text)
    (inner : ∀ c ∈ text, ¬ Text.isBoundary c) : isOption text ↔ Keyed text := by
  rw [isOption, stripped, option?_isSome_iff inner]

theorem Expressible.of_strip {text : List Char} (fits : Fits text) (stripped : Text.strip text = text)
    (plain : ¬ isOption text) : Expressible text :=
  ⟨fits, (Text.strip_eq_self_iff.mp stripped).1, (Text.strip_eq_self_iff.mp stripped).2,
    mt (isOption_iff stripped fits.inner).mpr plain⟩

theorem Expressible.not_isOption {text : List Char} (expressible : Expressible text) : ¬ isOption text :=
  mt (isOption_iff expressible.strip expressible.inner).mp expressible.keyless

/-- What stands in a field of a line can be said, as long as no option stands before it. -/
theorem expressible_of_mem_positional {line field : List Char} (inner : ∀ c ∈ line, ¬ Text.isBoundary c)
    (member : field ∈ positional line) : Expressible field := by
  have plain := List.mem_takeWhile_imp member
  have argument : field ∈ arguments line := (List.takeWhile_prefix _).subset member
  have stripped := arguments_stripped field argument
  rw [arguments_eq] at argument
  obtain ⟨part, there, rfl⟩ := List.mem_map.mp (List.mem_of_mem_tail argument)
  obtain ⟨comma, own⟩ := Text.mem_of_mem_split there
  have part_of : ∀ c ∈ Text.strip part, c ∈ part := (Text.strip_sublist part).subset
  have flat : ∀ c ∈ Text.strip part, ¬ Text.isBoundary c := fun c mine => inner c (own c (part_of c mine))
  exact .of_strip ⟨fun mine => comma (part_of _ mine), flat⟩ stripped (by simpa using plain)

theorem FieldKind.eq_text_of_judge {kind : FieldKind} {raw : List Char} {s : String}
    (judged : kind.judge raw = .ok (.text s)) : kind = .text ∧ s.toList = raw := by
  cases kind with
  | text =>
    cases judged
    exact ⟨rfl, String.toList_ofList⟩
  | length =>
    simp only [FieldKind.judge] at judged
    split at judged <;> cases judged
  | count =>
    simp only [FieldKind.judge] at judged
    split at judged <;> cases judged

/-- The texts among the values of a row are fields, character by character. -/
theorem Filled.toList_mem {specs : List FieldSpec} {fields : List (List Char)} {data : List (String × Datum)}
    (filled : Filled specs fields data) {name s : String} (member : (name, .text s) ∈ data) :
    s.toList ∈ fields := by
  obtain ⟨count, each⟩ := filled
  obtain ⟨i, here⟩ := List.mem_iff_getElem?.mp member
  have bound : i < specs.length := count ▸ (List.getElem?_eq_some_iff.mp here).1
  obtain ⟨raw, value, there, judged, same⟩ := each i _ (List.getElem?_eq_getElem bound)
  cases here.symm.trans same
  rw [(FieldKind.eq_text_of_judge judged).2]
  exact List.mem_of_getElem? there

theorem Filled.text_mem {specs : List FieldSpec} {fields : List (List Char)} {data : List (String × Datum)}
    (filled : Filled specs fields data) {i : Nat} {name : String} (declared : specs[i]? = some (textField name))
    {raw : List Char} (there : fields[i]? = some raw) : (name, .text (String.ofList raw)) ∈ data := by
  obtain ⟨other, value, here, judged, same⟩ := filled.2 i _ declared
  cases there.symm.trans here
  cases judged
  exact List.mem_of_getElem? same

/-- What stands in a field of a sample line: the text at its own place, and a zero at all others. -/
def sampleField (place : FieldSpec) (text : String) (spec : FieldSpec) : String :=
  if spec = place then text else "0"

/-- A line of a command, with the text in one of its fields and zeros in the others. -/
def sampleLine (keyword : Keyword) (name text : String) : String :=
  written keyword ((specs keyword).map (sampleField (textField name) text))

theorem sampleField_cases (place : FieldSpec) (text : String) (spec : FieldSpec) :
    spec = place ∧ sampleField place text spec = text ∨ sampleField place text spec = "0" := by
  unfold sampleField
  split
  next same => exact Or.inl ⟨same, rfl⟩
  next => exact Or.inr rfl

theorem expressible_zero : Expressible "0".toList :=
  .of_strip (by decide) (by decide) (by decide)

theorem sampleField_expressible {text : String} (expressible : Expressible text.toList) (place spec : FieldSpec) :
    Expressible (sampleField place text spec).toList := by
  rcases sampleField_cases place text spec with ⟨-, same⟩ | same
  · rwa [same]
  · rw [same]
    exact expressible_zero

theorem FieldKind.judge_zero (kind : FieldKind) : ∃ value, kind.judge "0".toList = .ok value := by
  cases kind <;> exact ⟨_, rfl⟩

theorem filled_sample (specs : List FieldSpec) (name text : String) :
    ∃ data, Filled specs (specs.map fun spec => (sampleField (textField name) text spec).toList) data := by
  induction specs with
  | nil => exact ⟨[], .nil _⟩
  | cons spec rest ih =>
    obtain ⟨data, filled⟩ := ih
    rcases sampleField_cases (textField name) text spec with ⟨rfl, same⟩ | same
    · have judged : FieldKind.judge .text text.toList = .ok (.text (String.ofList text.toList)) := rfl
      rw [← same] at judged
      exact ⟨_, filled.cons judged⟩
    · obtain ⟨value, judged⟩ := spec.kind.judge_zero
      rw [← same] at judged
      exact ⟨_, filled.cons judged⟩

theorem Misgiven.given {specs : List OptionSpec} {last : String → Option (List Char)} {e : FieldFault}
    (misgiven : Misgiven specs last e) : ∃ key, (last key).isSome := by
  obtain ⟨_, spec, _, _, _, _, _, given, _⟩ := misgiven
  exact ⟨spec.name, Option.isSome_of_eq_some given⟩

theorem fixed_of_text {keyword : Keyword} {name : String} (place : textField name ∈ specs keyword) :
    keyword ≠ .polyline := by
  rintro rfl
  cases List.mem_singleton.mp place

/-- Fields that can be said are read as they are written. -/
theorem read_written_plain (keyword : Keyword) {fields : List String}
    (each : ∀ field ∈ fields, Expressible field.toList) :
    read (written keyword fields) =
      match readDirective keyword ⟨fields.map String.toList, []⟩ with
      | .error e => .error ⟨e.fault, some 1, some keyword.name, some e.field⟩
      | .ok directive => .ok [⟨some 1, directive⟩] := by
  have stripped : trimmed fields = fields.map String.toList :=
    List.map_congr_left fun field member => (each field member).strip
  have parted : Fields.ofList (fields.map String.toList ++ []) = ⟨fields.map String.toList, [].filterMap option?⟩ :=
    Fields.ofList_append (List.forall_mem_map.mpr fun field member => (each field member).not_isOption) nofun
  rw [List.append_nil] at parted
  rw [read_written keyword fun field member => (each field member).toFits, stripped, parted]
  rfl

/-- A line with an expressible text in one of its fields is read, and the text comes through. -/
theorem read_sampleLine {keyword : Keyword} {name text : String} (place : textField name ∈ specs keyword)
    (expressible : Expressible text.toList) :
    ∃ directive, read (sampleLine keyword name text) = .ok [⟨some 1, directive⟩] ∧ directive.keyword = keyword ∧
      (name, .text text) ∈ directive.row := by
  let fields := (specs keyword).map (sampleField (textField name) text)
  have each : ∀ field ∈ fields, Expressible field.toList :=
    List.forall_mem_map.mpr fun spec _ => sampleField_expressible expressible (textField name) spec
  have one := read_written_plain keyword each
  obtain ⟨data, filled⟩ := filled_sample (specs keyword) name text
  have row : fields.map String.toList =
      (specs keyword).map fun spec => (sampleField (textField name) text spec).toList := List.map_map ..
  have judged := readDirective_judged (fixed_of_text place) ⟨fields.map String.toList, []⟩
  cases read : readDirective keyword ⟨fields.map String.toList, []⟩ with
  | error e =>
    rw [read] at judged
    rcases judged with flawed | ⟨-, misgiven⟩
    · exact absurd (row ▸ flawed) (filled.not_flawed e)
    · obtain ⟨key, given⟩ := misgiven.given
      cases given
  | ok directive =>
    rw [read] at judged one
    obtain ⟨kind, own, -⟩ := judged
    refine ⟨directive, one, kind, ?_⟩
    obtain ⟨i, there⟩ := List.mem_iff_getElem?.mp place
    have here : (fields.map String.toList)[i]? = some text.toList := by
      rw [row, List.getElem?_map, there]
      simp [sampleField]
    simpa using own.text_mem there here

/-- Only an expressible text comes out of a script. -/
theorem expressible_of_read {script : String} {commands : List (Command Float)} {command : Command Float}
    {keyword : Keyword} {name text : String} (done : read script = .ok commands) (member : command ∈ commands)
    (kind : command.directive.keyword = keyword) (fixed : keyword ≠ .polyline)
    (said : (name, .text text) ∈ command.directive.row) : Expressible text.toList := by
  obtain ⟨earlier, line, later, lines, own⟩ := readLine_of_mem done member
  have inner : ∀ c ∈ line, ¬ Text.isBoundary c :=
    Text.not_isBoundary_of_mem_lines (lines ▸ List.mem_append_right _ (List.mem_cons_self ..))
  subst kind
  have judged := readDirective_judged fixed (Fields.ofList (arguments line))
  rw [readDirective_of_readLine own] at judged
  exact expressible_of_mem_positional inner (judged.2.1.toList_mem said)

theorem read_string {text : String} (expressible : Expressible text.toList) :
    read ("string,0,0," ++ text) = .ok [⟨some 1, .string ⟨0, 0⟩ text {}⟩] := by
  have line : "string,0,0," ++ text = written .string ["0", "0", text] := by
    rw [written, String.intercalate_cons_cons, String.intercalate_cons_cons, String.intercalate_cons_cons,
      String.intercalate_singleton, ← String.append_assoc, ← String.append_assoc]
    rfl
  have each : ∀ field ∈ ["0", "0", text], Expressible field.toList := by
    simp only [List.forall_mem_cons]
    exact ⟨expressible_zero, expressible_zero, expressible, List.forall_mem_nil _⟩
  have said : readDirective .string ⟨["0", "0", text].map String.toList, []⟩ =
      .ok (.string ⟨0, 0⟩ (String.ofList text.toList) {}) := rfl
  rw [line, read_written_plain .string each, said, String.ofList_toList]

/-- A text can be given to a command by a script, in whichever of its fields that hold texts, just when it has no
blank at an end, no comma, no end of a line and no key with an equals sign at its beginning; and every such text is
given by the line in which it stands as it is. -/
theorem read_expressible {keyword : Keyword} {name : String} (place : textField name ∈ specs keyword)
    (text : String) :
    ((∃ script commands command, read script = .ok commands ∧ command ∈ commands ∧
        command.directive.keyword = keyword ∧ (name, .text text) ∈ command.directive.row) ↔
      Expressible text.toList) ∧
    (Expressible text.toList →
      (∃ directive, read (sampleLine keyword name text) = .ok [⟨some 1, directive⟩] ∧
        directive.keyword = keyword ∧ (name, .text text) ∈ directive.row) ∧
      read ("string,0,0," ++ text) = .ok [⟨some 1, .string ⟨0, 0⟩ text {}⟩]) := by
  refine ⟨⟨?_, ?_⟩, fun expressible => ⟨read_sampleLine place expressible, ?_⟩⟩
  · rintro ⟨script, commands, command, done, member, kind, said⟩
    exact expressible_of_read done member kind (fixed_of_text place) said
  · intro expressible
    obtain ⟨directive, done, kind, said⟩ := read_sampleLine place expressible
    exact ⟨_, _, _, done, List.mem_singleton_self _, kind, said⟩
  · exact read_string expressible

/-- A title that begins like a comment and has an equals sign in it, and one that a script cannot hold. -/
theorem read_expressible_title :
    textField "title" ∈ specs .yearMonthBox ∧
      (∃ directive, read (sampleLine .yearMonthBox "title" "# 1=$a") = .ok [⟨some 1, directive⟩] ∧
        directive.keyword = .yearMonthBox ∧ ("title", .text "# 1=$a") ∈ directive.row) ∧
      ¬ ∃ script commands command, read script = .ok commands ∧ command ∈ commands ∧
        command.directive.keyword = .yearMonthBox ∧ ("title", .text "_a1=") ∈ command.directive.row := by
  have place : textField "title" ∈ specs .yearMonthBox := List.mem_cons_self ..
  have expressible : Expressible "# 1=$a".toList := .of_strip (by decide) (by decide) (by decide)
  have keyed : Keyed "_a1=".toList := ⟨'_', ['a', '1'], [], by decide, by decide, List.all_eq_true.mp (by decide)⟩
  exact ⟨place, ((read_expressible place "# 1=$a").2 expressible).1,
    fun said => ((read_expressible place "_a1=").1.mp said).keyless keyed⟩

end Rirekisho.Script
