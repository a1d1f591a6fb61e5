import Mathlib.Logic.Relation
import Rirekisho.Proofs.Script.Polyline
import Rirekisho.Proofs.Text.Line

namespace Rirekisho.Script

/-- The key and the value of a field that is an option, also with blanks around it. -/
def entry? (field : List Char) : Option (List Char × List Char) := option? (Text.strip field)

/-- The command knows no option with the key. -/
def Foreign (keyword : Keyword) (key : List Char) : Prop :=
  ∀ spec ∈ optionSpecs keyword, spec.name.toList ≠ key

/-- A field that says nothing before the fields behind it: it is no option, its command does not know it, or its
key is given once more. -/
inductive Idle (keyword : Keyword) (after : List (List Char)) (field : List Char) : Prop
  | stray : entry? field = none → Idle keyword after field
  | foreign {key value : List Char} : entry? field = some (key, value) → Foreign keyword key →
      Idle keyword after field
  | overridden {key value new later : List Char} : entry? field = some (key, value) → later ∈ after →
      entry? later = some (key, new) → Idle keyword after field

/-- Fields of a line of a command, written in another way: with other blanks around them, with two options in the
other order, or with one idle field less. The idle field stands behind an option, or it is one itself and only
options stand right behind it, so that the options begin where they did. -/
inductive Respelled (keyword : Keyword) : List (List Char) → List (List Char) → Prop
  | blanks {fields others : List (List Char)} : others.map Text.strip = fields.map Text.strip →
      Respelled keyword fields others
  | swap {before after : List (List Char)} {first second key value other new : List Char} :
      entry? first = some (key, value) → entry? second = some (other, new) → key ≠ other →
      Respelled keyword (before ++ first :: second :: after) (before ++ second :: first :: after)
  | drop {before after : List (List Char)} {field : List Char} : Idle keyword after field →
      (∃ option ∈ before, isOption option) ∨ isOption field ∧ (∀ next ∈ after.head?, isOption next) →
      Respelled keyword (before ++ field :: after) (before ++ after)

/-- Fields of a line that come to the same for a command. -/
structure Concur (keyword : Keyword) (fields others : List (List Char)) : Prop where
  front : (others.map Text.strip).takeWhile (!isOption ·) = (fields.map Text.strip).takeWhile (!isOption ·)
  options : ∀ spec ∈ optionSpecs keyword,
    lastValue? (others.map Text.strip) spec.name = lastValue? (fields.map Text.strip) spec.name

theorem isOption_strip (field : List Char) : isOption (Text.strip field) = isOption field := by
  rw [isOption, Text.strip_strip, isOption]

theorem takeWhile_append_stop {α : Type} {p : α → Bool} {x : α} (stops : ¬ p x) (before after : List α) :
    (before ++ x :: after).takeWhile p = before.takeWhile p := by
  induction before with
  | nil => rw [List.nil_append, List.takeWhile_cons_of_neg stops, List.takeWhile_nil]
  | cons y rest ih =>
    rw [List.cons_append, List.takeWhile_cons, List.takeWhile_cons, ih]

/-- The fields before the first option do not change when something is put behind one. -/
theorem front_append {option : List Char} (given : isOption option) (before after : List (List Char)) :
    ((before ++ option :: after).map Text.strip).takeWhile (!isOption ·) =
      (before.map Text.strip).takeWhile (!isOption ·) := by
  rw [List.map_append, List.map_cons]
  exact takeWhile_append_stop (by simp [isOption_strip, given]) _ _

theorem front_append_of_mem {option : List Char} {before : List (List Char)} (member : option ∈ before)
    (given : isOption option) (after : List (List Char)) :
    ((before ++ after).map Text.strip).takeWhile (!isOption ·) =
      (before.map Text.strip).takeWhile (!isOption ·) := by
  obtain ⟨early, late, rfl⟩ := List.append_of_mem member
  rw [List.append_assoc, List.cons_append, front_append given, front_append given]

theorem front_append_of_head {before after : List (List Char)} (options : ∀ next ∈ after.head?, isOption next) :
    ((before ++ after).map Text.strip).takeWhile (!isOption ·) =
      (before.map Text.strip).takeWhile (!isOption ·) := by
  cases after with
  | nil => rw [List.append_nil]
  | cons next rest => exact front_append (options next rfl) before rest

theorem isOption_of_entry {field : List Char} {entry : List Char × List Char} (given : entry? field = some entry) :
    isOption field :=
  Option.isSome_of_eq_some given

theorem lastValue?_append (fields more : List (List Char)) (key : String) :
    lastValue? (fields ++ more) key = (lastValue? more key).or (lastValue? fields key) := by
  simp only [lastValue?, List.filterMap_append, List.filter_append, List.getLast?_append, Option.map_or]

theorem lastValue?_cons (field : List Char) (rest : List (List Char)) (key : String) :
    lastValue? (field :: rest) key = (lastValue? rest key).or (lastValue? [field] key) :=
  lastValue?_append [field] rest key

theorem lastValue?_of_entry {field key value : List Char} (given : entry? field = some (key, value))
    (name : String) :
    lastValue? [Text.strip field] name = if key = name.toList then some value else none := by
  have single : [Text.strip field].filterMap option? = [(key, value)] := List.filterMap_cons_some given
  rw [lastValue?, single]
  by_cases same : key = name.toList
  · rw [if_pos same, List.filter_cons_of_pos (by simpa using same)]
    rfl
  · rw [if_neg same, List.filter_cons_of_neg (by simpa using same)]
    rfl

theorem lastValue?_of_stray {field : List Char} (stray : entry? field = none) (name : String) :
    lastValue? [Text.strip field] name = none := by
  have nothing : [Text.strip field].filterMap option? = [] := List.filterMap_cons_none stray
  rw [lastValue?, nothing]
  rfl

theorem lastValue?_isSome_of_mem {fields : List (List Char)} {field value : List Char} {name : String}
    (member : field ∈ fields) (given : entry? field = some (name.toList, value)) :
    (lastValue? (fields.map Text.strip) name).isSome := by
  obtain ⟨early, late, rfl⟩ := List.append_of_mem member
  rw [List.map_append, List.map_cons, lastValue?_append, lastValue?_cons, lastValue?_of_entry given, if_pos rfl,
    Option.isSome_or, Option.isSome_or, Option.isSome_some, Bool.or_true, Bool.true_or]

/-- Before the fields behind it, an idle field gives no value to an option. -/
theorem Idle.lastValue? {keyword : Keyword} {after : List (List Char)} {field : List Char}
    (idle : Idle keyword after field) {spec : OptionSpec} (known : spec ∈ optionSpecs keyword) :
    (Script.lastValue? (after.map Text.strip) spec.name).or (Script.lastValue? [Text.strip field] spec.name) =
      Script.lastValue? (after.map Text.strip) spec.name := by
  cases idle with
  | stray none => rw [lastValue?_of_stray none, Option.or_none]
  | foreign given other => rw [lastValue?_of_entry given, if_neg (Ne.symm (other spec known)), Option.or_none]
  | overridden given member again =>
    rw [lastValue?_of_entry given]
    split
    next same =>
      rw [same] at again
      exact Option.or_of_isSome (lastValue?_isSome_of_mem member again)
    next => rw [Option.or_none]

/-- Each change of the spelling leaves what counts in a line as it is. -/
theorem Respelled.concur {keyword : Keyword} {fields others : List (List Char)}
    (respelled : Respelled keyword fields others) : Concur keyword fields others := by
  cases respelled with
  | blanks same => exact ⟨by rw [same], fun spec _ => by rw [same]⟩
  | @swap before after first second key value other new given next different =>
    constructor
    · rw [front_append (isOption_of_entry given), front_append (isOption_of_entry next)]
    · intro spec _
      simp only [List.map_append, List.map_cons, lastValue?_append, lastValue?_cons _ (_ :: _),
        lastValue?_cons _ (after.map Text.strip), lastValue?_of_entry given, lastValue?_of_entry next]
      -- at most one of the two fields gives a value to this option
      by_cases mine : key = spec.name.toList
      · have others : other ≠ spec.name.toList := fun same => different (mine.trans same.symm)
        rw [if_pos mine, if_neg others, Option.or_none, Option.or_none]
      · rw [if_neg mine, Option.or_none, Option.or_none]
  | @drop before after field idle place =>
    constructor
    · rcases place with ⟨option, member, given⟩ | ⟨given, options⟩
      · rw [front_append_of_mem member given, front_append_of_mem member given]
      · rw [front_append given, front_append_of_head options]
    · intro spec known
      rw [List.map_append, List.map_append, List.map_cons, lastValue?_append, lastValue?_append, lastValue?_cons,
        idle.lastValue? known]

theorem Concur.refl (keyword : Keyword) (fields : List (List Char)) : Concur keyword fields fields :=
  ⟨rfl, fun _ _ => rfl⟩

theorem Concur.symm {keyword : Keyword} {fields others : List (List Char)} (concur : Concur keyword fields others) :
    Concur keyword others fields :=
  ⟨concur.front.symm, fun spec known => (concur.options spec known).symm⟩

theorem Concur.trans {keyword : Keyword} {fields others more : List (List Char)}
    (first : Concur keyword fields others) (second : Concur keyword others more) : Concur keyword fields more :=
  ⟨second.front.trans first.front,
    fun spec known => (second.options spec known).trans (first.options spec known)⟩

/-- However often the spelling is changed, what counts stays. -/
theorem concur_of_respelled {keyword : Keyword} {fields others : List (List Char)}
    (respelled : Relation.EqvGen (Respelled keyword) fields others) : Concur keyword fields others := by
  induction respelled with
  | rel _ _ step => exact step.concur
  | refl fields => exact .refl keyword fields
  | symm _ _ _ ih => exact ih.symm
  | trans _ _ _ _ _ first second => exact first.trans second

theorem comma_solid : ¬ Text.isBlank ',' := by decide

theorem arguments_eq (line : List Char) : arguments line = ((Text.split ',' line).map Text.strip).tail := by
  rw [arguments, Text.map_strip_split_strip comma_solid]

/-- A line that begins with a keyword has it as its first field. -/
theorem fields_of_keyword {keyword : Keyword} {line : List Char} (word : firstWord line = keyword.name) :
    (Text.split ',' line).map Text.strip = keyword.name.toList :: arguments line := by
  obtain ⟨first, rest, parts⟩ := List.exists_cons_of_ne_nil (Text.split_ne_nil ',' line)
  have head := firstWord_eq line
  rw [Text.map_strip_split_strip comma_solid, word, parts, List.map_cons, List.headD_cons] at head
  rw [arguments_eq, parts, List.map_cons, List.tail_cons, ← head, String.toList_ofList]

theorem isOption_name (keyword : Keyword) : isOption keyword.name.toList = false := by
  cases keyword <;> decide

theorem front_of_keyword {keyword : Keyword} {line : List Char} (word : firstWord line = keyword.name) :
    ((Text.split ',' line).map Text.strip).takeWhile (!isOption ·) = keyword.name.toList :: positional line := by
  rw [fields_of_keyword word, List.takeWhile_cons_of_pos (by simp [isOption_name]), positional]

theorem lastValue?_of_keyword {keyword : Keyword} {line : List Char} (word : firstWord line = keyword.name)
    (key : String) : lastValue? ((Text.split ',' line).map Text.strip) key = lastValue? (arguments line) key := by
  have nothing : lastValue? [keyword.name.toList] key = none := by
    have stripped : Text.strip keyword.name.toList = keyword.name.toList := by cases keyword <;> decide
    rw [← stripped]
    exact lastValue?_of_stray (by cases keyword <;> decide) key
  rw [fields_of_keyword word, lastValue?_cons, nothing, Option.or_none]

/-- A line that concurs with one of a command is a line of the same command. -/
theorem Concur.word {keyword : Keyword} {line other : List Char}
    (concur : Concur keyword (Text.split ',' line) (Text.split ',' other)) (word : firstWord line = keyword.name) :
    firstWord other = keyword.name := by
  have front := concur.front
  rw [front_of_keyword word] at front
  have first := firstWord_eq other
  rw [Text.map_strip_split_strip comma_solid] at first
  obtain ⟨part, rest, parts⟩ := List.exists_cons_of_ne_nil (Text.split_ne_nil ',' other)
  rw [parts, List.map_cons] at front first
  rw [List.takeWhile_cons] at front
  split at front
  · rw [← first, List.headD_cons, (List.cons.inj front).1, String.ofList_toList]
  · cases front

/-- What a directive says is told by its fields before the first option and by the last values of the options that
its keyword knows. -/
theorem readDirective_alike {keyword : Keyword} {fields other : Fields} (same : other.positional = fields.positional)
    (options : ∀ spec ∈ optionSpecs keyword, other.last? spec.name = fields.last? spec.name) :
    readDirective keyword other = readDirective keyword fields := by
  by_cases polyline : keyword = .polyline
  · subst polyline
    exact readPolyline_congr (by rw [same]) (by rw [same]) options
  · exact readDirective_congr polyline (by rw [same]) options

theorem readLine_alike {keyword : Keyword} {line other : List Char} (word : firstWord line = keyword.name)
    (again : firstWord other = keyword.name) (same : positional other = positional line)
    (options : ∀ spec ∈ optionSpecs keyword,
      lastValue? (arguments other) spec.name = lastValue? (arguments line) spec.name) (number : Int) :
    readLine number other = readLine number line := by
  have alike : readDirective keyword (Fields.ofList (arguments other)) =
      readDirective keyword (Fields.ofList (arguments line)) := by
    refine readDirective_alike same fun spec known => ?_
    rw [last?_arguments, last?_arguments]
    exact options spec known
  rw [readLine_keyword word, readLine_keyword again, alike]

/-- Two lines of one command are read in the same way, also when they cannot be read, if they have the same fields
before the first option and the same last value of each option that the command knows. So the spelling of a line does
not matter: the blanks around its fields, the order of different options, options that are given once more or that the
command does not know, and what is no option among the options. -/
theorem readLine_spelling {keyword : Keyword} {line : List Char} (word : firstWord line = keyword.name)
    (number : Int) (other : List Char) :
    (firstWord other = keyword.name → positional other = positional line →
      (∀ spec ∈ optionSpecs keyword,
        lastValue? (arguments other) spec.name = lastValue? (arguments line) spec.name) →
      readLine number other = readLine number line) ∧
    (Relation.EqvGen (Respelled keyword) (Text.split ',' line) (Text.split ',' other) →
      readLine number other = readLine number line) := by
  refine ⟨fun again same options => readLine_alike word again same options number, fun respelled => ?_⟩
  have concur := concur_of_respelled respelled
  have again := concur.word word
  have front := concur.front
  rw [front_of_keyword word, front_of_keyword again] at front
  refine readLine_alike word again (List.cons.inj front).2 (fun spec known => ?_) number
  have last := concur.options spec known
  rwa [lastValue?_of_keyword word, lastValue?_of_keyword again] at last

/-- A polyline with blanks, with a field among its options that is none, with an option that it does not know and with
a width that is given twice; and the same one written plainly, in the other order. -/
theorem readLine_spelling_polyline :
    let line := " lines ,1,\t0,5 , close=no,more,shade=,line_width=2,line_width=1".toList
    let other := "lines,1,0,5,line_width=1,close=no".toList
    firstWord line = Keyword.polyline.name ∧
      Relation.EqvGen (Respelled .polyline) (Text.split ',' line) (Text.split ',' other) ∧
      readLine 4 other = readLine 4 line := by
  intro line other
  have word : firstWord line = Keyword.polyline.name := by decide
  let front := ["lines", "1", "0", "5"].map String.toList
  let close := "close=no".toList
  let width := "line_width=1".toList
  have behind : ∃ option ∈ front ++ [close], isOption option :=
    ⟨close, List.mem_append_right front (List.mem_singleton_self close), by decide⟩
  have foreign : Foreign .polyline "shade".toList := by
    simp only [Foreign, optionSpecs, List.forall_mem_cons]
    exact ⟨by decide, by decide, by decide, List.forall_mem_nil _⟩
  have blanks : Respelled .polyline (Text.split ',' line)
      ((front ++ [close]) ++ ["more", "shade=", "line_width=2", "line_width=1"].map String.toList) :=
    .blanks (by decide)
  have stray : Respelled .polyline _
      ((front ++ [close]) ++ ["shade=", "line_width=2", "line_width=1"].map String.toList) :=
    .drop (.stray (show entry? "more".toList = none by decide)) (Or.inl behind)
  have unknown : Respelled .polyline _ ((front ++ [close]) ++ ["line_width=2", "line_width=1"].map String.toList) :=
    .drop (.foreign (show entry? "shade=".toList = some ("shade".toList, []) by decide) foreign) (Or.inl behind)
  have twice : Respelled .polyline _ ((front ++ [close]) ++ [width]) :=
    .drop (.overridden (show entry? "line_width=2".toList = some ("line_width".toList, ['2']) by decide)
      (List.mem_singleton_self width) (show entry? width = some ("line_width".toList, ['1']) by decide))
      (Or.inl behind)
  have order : Respelled .polyline (front ++ [close, width]) (front ++ [width, close]) :=
    .swap (show entry? close = some ("close".toList, "no".toList) by decide)
      (show entry? width = some ("line_width".toList, ['1']) by decide) (by decide)
  have respelled : Relation.EqvGen (Respelled .polyline) (Text.split ',' line) (Text.split ',' other) :=
    (Relation.EqvGen.rel _ _ blanks).trans _ _ _ <| (Relation.EqvGen.rel _ _ stray).trans _ _ _ <|
      (Relation.EqvGen.rel _ _ unknown).trans _ _ _ <| (Relation.EqvGen.rel _ _ twice).trans _ _ _ <|
        .rel _ _ order
  exact ⟨word, respelled, (readLine_spelling word 4 other).2 respelled⟩

end Rirekisho.Script
