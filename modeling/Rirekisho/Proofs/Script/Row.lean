import Rirekisho.Proofs.Script.Judgement
import Rirekisho.Proofs.Script.Reading

namespace Rirekisho

/-- The columns of a table under the names that they have in a script. -/
def TableColumns.row (columns : TableColumns Float) : List (String × Datum) :=
  [("y", .length columns.y), ("year_x", .length columns.yearX), ("month_x", .length columns.monthX),
    ("value_x", .length columns.valueX), ("padding", .length columns.padding)]

/-- The fields of a directive under the names that they have in a script, in their order. Of a polyline
it is the one before the points. -/
def Directive.row : Directive Float → List (String × Datum)
  | .string position value _ =>
    [("x", .length position.x), ("y", .length position.y), ("value", .text value)]
  | .line start delta _ =>
    [("x1", .length start.x), ("y1", .length start.y), ("x2", .length delta.x), ("y2", .length delta.y)]
  | .box position size _ | .photo position size =>
    [("x", .length position.x), ("y", .length position.y), ("width", .length size.width),
      ("height", .length size.height)]
  | .newPage => []
  | .textBox position size value _ =>
    [("x", .length position.x), ("y", .length position.y), ("width", .length size.width),
      ("height", .length size.height), ("value", .text value)]
  | .multiLines start direction count offset =>
    [("x", .length start.x), ("y", .length start.y), ("dx", .length direction.x),
      ("dy", .length direction.y), ("stroke_number", .count count), ("sx", .length offset.x),
      ("sy", .length offset.y)]
  | .polyline count _ _ _ => [("stroke_number", .count count)]
  | .yearMonthBox title height count value =>
    [("title", .text title), ("height", .length height), ("num", .count count), ("value", .text value)]
  | .miscBox title y height value =>
    [("title", .text title), ("y", .length y), ("height", .length height), ("value", .text value)]
  | .history columns value _ => columns.row ++ [("value", .text value)]
  | .educationExperience columns captionX endX _ =>
    columns.row ++ [("caption_x", .length captionX), ("ijo_x", .length endX)]

/-- The options for type under their names, in the order in which they are read. -/
def FontOptions.row (font : FontOptions Float) : List (String × Option Datum) :=
  [("font_face", font.givenFace.map .text), ("font_size", font.givenSize.map .number)]

/-- The options for lines under their names, in the order in which they are read. -/
def LineOptions.row (line : LineOptions Float) : List (String × Option Datum) :=
  [("line_style", line.givenStyle.map .style), ("line_width", line.givenWidth.map .number)]

/-- The options of a directive under their names; what is not given is none. -/
def Directive.options : Directive Float → List (String × Option Datum)
  | .string _ _ font | .textBox _ _ _ font | .history _ _ font | .educationExperience _ _ _ font =>
    font.row
  | .line _ _ given | .box _ _ given => given.row
  | .polyline _ _ given close => given.row ++ [("close", close.map .truth)]
  | .photo .. | .newPage | .multiLines .. | .yearMonthBox .. | .miscBox .. => []

namespace Script

/-- The fields of a line after its keyword, without the blanks around them. -/
def arguments (line : List Char) : List (List Char) :=
  ((Text.split ',' (Text.strip line)).map Text.strip).tail

/-- The fields of a line after its keyword and before its first option. -/
def positional (line : List Char) : List (List Char) := (arguments line).takeWhile (!isOption ·)

/-- The last value that fields give to an option. -/
def lastValue? (fields : List (List Char)) (key : String) : Option (List Char) :=
  (((fields.filterMap option?).filter (·.1 == key.toList)).getLast?).map (·.2)

/-- The options that each command knows, in the order in which they are read. -/
def optionSpecs : Keyword → List OptionSpec
  | .string | .textBox | .history | .educationExperience =>
    [⟨"font_face", .face⟩, ⟨"font_size", .number⟩]
  | .line | .box => [⟨"line_style", .style⟩, ⟨"line_width", .number⟩]
  | .polyline => [⟨"line_style", .style⟩, ⟨"line_width", .number⟩, ⟨"close", .truth⟩]
  | .photo | .newPage | .multiLines | .yearMonthBox | .miscBox => []

/-- What a line comes to whose command has a fixed row of fields: the first of the declared fields that
is missing or malformed is told; or, when there is none, the first malformed option; or else the command
has the values of all of them. -/
inductive Diagnosis (keyword : Keyword) (number : Int) (fields : List (List Char))
    (last : String → Option (List Char)) : Except (Located Fault) (Option (Command Float)) → Prop
  | missing {i : Nat} {spec : FieldSpec} {before : List (String × Datum)} :
      (specs keyword)[i]? = some spec → Filled ((specs keyword).take i) fields before →
      fields.length ≤ i →
      Diagnosis keyword number fields last
        (.error ⟨.missingField, some number, some keyword.name, some spec.name⟩)
  | malformed {i : Nat} {spec : FieldSpec} {before : List (String × Datum)} {raw : List Char}
      {expected : Expectation} :
      (specs keyword)[i]? = some spec → Filled ((specs keyword).take i) fields before →
      fields[i]? = some raw → spec.kind.judge raw = .error expected →
      Diagnosis keyword number fields last (.error
        ⟨.malformed expected (String.ofList raw), some number, some keyword.name, some spec.name⟩)
  | option {i : Nat} {spec : OptionSpec} {data : List (String × Datum)}
      {before : List (String × Option Datum)} {raw : List Char} {expected : Expectation} :
      Filled (specs keyword) fields data →
      (optionSpecs keyword)[i]? = some spec → Chosen ((optionSpecs keyword).take i) last before →
      last spec.name = some raw → spec.kind.judge raw = .error expected →
      Diagnosis keyword number fields last (.error
        ⟨.malformed expected (String.ofList raw), some number, some keyword.name, some spec.name⟩)
  | command {directive : Directive Float} :
      directive.keyword = keyword → Filled (specs keyword) fields directive.row →
      Chosen (optionSpecs keyword) last directive.options →
      Diagnosis keyword number fields last (.ok (some ⟨some number, directive⟩))

/-- The options of a command. Those of a polyline are not among them. -/
def Options : Keyword → Type
  | .string | .textBox | .history | .educationExperience => FontOptions Float
  | .line | .box => LineOptions Float
  | .photo | .newPage | .multiLines | .polyline | .yearMonthBox | .miscBox => Unit

def readOptions (fields : Fields) : (keyword : Keyword) → Except FieldFault (Options keyword)
  | .string | .textBox | .history | .educationExperience => fields.font
  | .line | .box => fields.line
  | .photo | .newPage | .multiLines | .polyline | .yearMonthBox | .miscBox => .ok ()

def Options.row : (keyword : Keyword) → Options keyword → List (String × Option Datum)
  | .string | .textBox | .history | .educationExperience => FontOptions.row
  | .line | .box => LineOptions.row
  | .photo | .newPage | .multiLines | .polyline | .yearMonthBox | .miscBox => fun _ => []

/-- A directive put together from the values of its row and from its options. A polyline is left without
points. -/
def directiveOf : (keyword : Keyword) → Row (specs keyword) → Options keyword → Directive Float
  | .string, (x, y, value, ()), font => .string ⟨x, y⟩ value font
  | .line, (x, y, dx, dy, ()), line => .line ⟨x, y⟩ ⟨dx, dy⟩ line
  | .box, (x, y, width, height, ()), line => .box ⟨x, y⟩ ⟨width, height⟩ line
  | .photo, (x, y, width, height, ()), () => .photo ⟨x, y⟩ ⟨width, height⟩
  | .newPage, (), () => .newPage
  | .textBox, (x, y, width, height, value, ()), font => .textBox ⟨x, y⟩ ⟨width, height⟩ value font
  | .multiLines, (x, y, dx, dy, count, sx, sy, ()), () => .multiLines ⟨x, y⟩ ⟨dx, dy⟩ count ⟨sx, sy⟩
  | .polyline, (count, ()), () => .polyline count [] {} none
  | .yearMonthBox, (title, height, count, value, ()), () => .yearMonthBox title height count value
  | .miscBox, (title, y, height, value, ()), () => .miscBox title y height value
  | .history, (y, yearX, monthX, valueX, padding, value, ()), font =>
    .history ⟨y, yearX, monthX, valueX, padding⟩ value font
  | .educationExperience, (y, yearX, monthX, valueX, padding, captionX, endX, ()), font =>
    .educationExperience ⟨y, yearX, monthX, valueX, padding⟩ captionX endX font

section
variable {keyword : Keyword} (fixed : keyword ≠ .polyline)
include fixed

/-- The commands with a fixed row are read in one way: the row first, then the options. -/
theorem readDirective_eq (fields : Fields) :
    readDirective keyword fields = do
      let values ← readRow (specs keyword) fields.positional
      return directiveOf keyword values (← readOptions fields keyword) := by
  cases keyword
  case polyline => exact absurd rfl fixed
  all_goals rfl

theorem directiveOf_row (values : Row (specs keyword)) (given : Options keyword) :
    (directiveOf keyword values given).keyword = keyword ∧
      (directiveOf keyword values given).row = Row.data (specs keyword) values ∧
      (directiveOf keyword values given).options = Options.row keyword given := by
  cases keyword
  case polyline => exact absurd rfl fixed
  all_goals exact ⟨rfl, rfl, rfl⟩

theorem readOptions_gathers (fields : Fields) :
    Gathers fields.last? (Options.row keyword) [] (optionSpecs keyword) (readOptions fields keyword) := by
  cases keyword with
  | polyline => exact absurd rfl fixed
  | string | textBox | history | educationExperience =>
    exact .cons readFace_judges fun _ => .cons readNumber_judges fun _ => .nil rfl
  | line | box => exact .cons readLineStyle_judges fun _ => .cons readNumber_judges fun _ => .nil rfl
  | photo | newPage | multiLines | yearMonthBox | miscBox => exact .nil rfl

theorem readDirective_judged (fields : Fields) :
    match readDirective keyword fields with
    | .ok directive => directive.keyword = keyword ∧
        Filled (specs keyword) fields.positional directive.row ∧
        Chosen (optionSpecs keyword) fields.last? directive.options
    | .error e => Flawed (specs keyword) fields.positional e ∨
        (∃ data, Filled (specs keyword) fields.positional data) ∧
          Misgiven (optionSpecs keyword) fields.last? e := by
  have row := readRow_judged (specs keyword) fields.positional
  have gathers := readOptions_gathers fixed fields
  rw [readDirective_eq fixed]
  cases read : readRow (specs keyword) fields.positional with
  | error e =>
    rw [read] at row
    exact Or.inl row
  | ok values =>
    rw [read] at row
    cases chose : readOptions fields keyword with
    | error e =>
      rw [chose] at gathers
      exact Or.inr ⟨⟨_, row⟩, gathers⟩
    | ok given =>
      rw [chose] at gathers
      obtain ⟨data, found, chosen⟩ := gathers
      obtain ⟨kind, named, said⟩ := directiveOf_row fixed values given
      rw [List.nil_append] at found
      refine ⟨kind, ?_, ?_⟩
      · rw [named]
        exact row
      · rw [said, found]
        exact chosen

theorem readDirective_congr {fields other : Fields}
    (row : readRow (specs keyword) other.positional = readRow (specs keyword) fields.positional)
    (options : ∀ spec ∈ optionSpecs keyword, other.last? spec.name = fields.last? spec.name) :
    readDirective keyword other = readDirective keyword fields := by
  have same : readOptions other keyword = readOptions fields keyword := by
    cases keyword with
    | polyline => exact absurd rfl fixed
    | string | textBox | history | educationExperience =>
      have face := options ⟨"font_face", .face⟩ (List.mem_cons_self ..)
      have size := options ⟨"font_size", .number⟩ (List.mem_cons_of_mem _ (List.mem_cons_self ..))
      have font : other.font = fields.font := by simp only [Fields.font, Fields.option, face, size]
      exact font
    | line | box =>
      have style := options ⟨"line_style", .style⟩ (List.mem_cons_self ..)
      have width := options ⟨"line_width", .number⟩ (List.mem_cons_of_mem _ (List.mem_cons_self ..))
      have line : other.line = fields.line := by simp only [Fields.line, Fields.option, style, width]
      exact line
    | photo | newPage | multiLines | yearMonthBox | miscBox => rfl
  rw [readDirective_eq fixed, readDirective_eq fixed, row, same]

end

/-- No option stands before the first field that has the form of one. -/
theorem filterMap_option?_dropWhile {fields : List (List Char)}
    (stripped : ∀ field ∈ fields, Text.strip field = field) :
    (fields.dropWhile (!isOption ·)).filterMap option? = fields.filterMap option? := by
  induction fields with
  | nil => rfl
  | cons field rest ih =>
    have same := stripped field (List.mem_cons_self ..)
    have others := ih fun other member => stripped other (List.mem_cons_of_mem _ member)
    cases given : option? field with
    | none =>
      have passed : isOption field = false := by rw [isOption, same, given]; rfl
      simp only [List.dropWhile, passed, Bool.not_false, others, List.filterMap_cons_none given]
    | some entry =>
      have stays : isOption field = true := by rw [isOption, same, given]; rfl
      simp only [List.dropWhile, stays, Bool.not_true]

theorem last?_ofList {fields : List (List Char)} (stripped : ∀ field ∈ fields, Text.strip field = field)
    (key : String) : (Fields.ofList fields).last? key = lastValue? fields key := by
  rw [Fields.last?, Fields.ofList, filterMap_option?_dropWhile stripped, lastValue?,
    ← List.head?_filter, List.filter_reverse, List.head?_reverse]

theorem arguments_stripped {line : List Char} : ∀ field ∈ arguments line, Text.strip field = field := by
  intro field member
  obtain ⟨part, _, rfl⟩ := List.mem_map.mp (List.mem_of_mem_tail member)
  exact Text.strip_strip part

/-- The options of a line are its last values. -/
theorem last?_arguments (line : List Char) : (Fields.ofList (arguments line)).last? = lastValue? (arguments line) :=
  funext (last?_ofList arguments_stripped)

/-- A line that begins with a number sign is no command, so that its first word is no keyword. -/
theorem firstWord_comment {line : List Char} (comment : (Text.strip line).head? = some '#') :
    (firstWord line).toList.head? = some '#' := by
  obtain ⟨rest, begun⟩ := List.head?_eq_some_iff.mp comment
  rw [firstWord, String.toList_ofList, ← Text.strip_takeWhile_strip comma_passes, begun,
    List.takeWhile_cons_of_pos (by decide)]
  exact Text.strip_head (by decide)

/-- A line that begins with a keyword is neither empty nor a comment. -/
theorem readLine_keyword {keyword : Keyword} {line : List Char} (word : firstWord line = keyword.name)
    (number : Int) :
    readLine number line = match readDirective keyword (Fields.ofList (arguments line)) with
      | .error e => .error ⟨e.fault, some number, some keyword.name, some e.field⟩
      | .ok directive => .ok (some ⟨some number, directive⟩) := by
  have first := firstWord_eq line
  have command : ¬ (Text.strip line = [] ∨ (Text.strip line).head? = some '#') := by
    rintro (empty | comment)
    · rw [empty, word] at first
      cases keyword <;> exact absurd first (by decide)
    · have sign := firstWord_comment comment
      rw [word] at sign
      cases keyword <;> exact absurd sign (by decide)
  have known : Keyword.ofName? keyword.name = some keyword := by cases keyword <;> rfl
  unfold arguments
  cases read : readDirective keyword (Fields.ofList ((Text.split ',' (Text.strip line)).map Text.strip).tail)
  all_goals simp only [readLine, if_neg command, first, word, known, read]

/-- A line with a command is read by its keyword. -/
theorem readDirective_of_readLine {number : Int} {line : List Char} {command : Command Float}
    (own : readLine number line = .ok (some command)) :
    readDirective command.directive.keyword (Fields.ofList (arguments line)) = .ok command.directive := by
  have word := (readLine_some own).2
  rw [readLine_keyword word.symm] at own
  cases told : readDirective command.directive.keyword (Fields.ofList (arguments line)) with
  | error e =>
    rw [told] at own
    cases own
  | ok directive =>
    rw [told] at own
    rw [← Option.some.inj (Except.ok.inj own)]

/-- A line of a command with a fixed row of fields is read as its fields before the first option and the
last values of the options that the command knows tell. Fields behind the declared ones do not matter. -/
theorem readLine_row {keyword : Keyword} (fixed : keyword ≠ .polyline) {line : List Char}
    (word : firstWord line = keyword.name) (number : Int) :
    Diagnosis keyword number (positional line) (lastValue? (arguments line)) (readLine number line) ∧
      ∀ other, firstWord other = keyword.name →
        (positional other).take (specs keyword).length =
          (positional line).take (specs keyword).length →
        (∀ spec ∈ optionSpecs keyword,
          lastValue? (arguments other) spec.name = lastValue? (arguments line) spec.name) →
        readLine number other = readLine number line := by
  have last (line : List Char) :
      (Fields.ofList (arguments line)).last? = lastValue? (arguments line) :=
    funext (last?_ofList arguments_stripped)
  constructor
  · have judged := readDirective_judged fixed (Fields.ofList (arguments line))
    rw [readLine_keyword word]
    rw [last] at judged
    cases read : readDirective keyword (Fields.ofList (arguments line)) with
    | ok directive =>
      rw [read] at judged
      obtain ⟨kind, filled, chosen⟩ := judged
      exact .command kind filled chosen
    | error e =>
      obtain ⟨fault, field⟩ := e
      rw [read] at judged
      rcases judged with ⟨i, spec, before, there, filled, rfl, ⟨short, rfl⟩ | ⟨raw, expected, here, flaw, rfl⟩⟩ |
        ⟨⟨data, filled⟩, i, spec, before, raw, expected, there, chosen, given, flaw, same⟩
      · exact .missing there filled short
      · exact .malformed there filled here flaw
      · cases same
        exact .option filled there chosen given flaw
  · intro other same row options
    have read : readRow (specs keyword) (positional other) = readRow (specs keyword) (positional line) := by
      rw [← readRow_take, row, readRow_take]
    have alike : readDirective keyword (Fields.ofList (arguments other)) =
        readDirective keyword (Fields.ofList (arguments line)) := by
      refine readDirective_congr fixed read fun spec known => ?_
      rw [last, last]
      exact options spec known
    rw [readLine_keyword word, readLine_keyword same, alike]

/-- A frame whose face is empty the last time it is given, and the same one with a field too many. -/
theorem readLine_row_textBox :
    let line := "textbox, 0, 0, 20, 10, $name, font_size=9, font_face=".toList
    let other := "textbox,0,0,20,10,$name,more,font_face=gothic,font_size=9,font_face=".toList
    firstWord line = Keyword.textBox.name ∧ firstWord other = Keyword.textBox.name ∧
      Diagnosis .textBox 7 (positional line) (lastValue? (arguments line)) (readLine 7 line) ∧
      readLine 7 other = readLine 7 line := by
  intro line other
  have word : firstWord line = Keyword.textBox.name := by decide
  have same : firstWord other = Keyword.textBox.name := by decide
  have row : (positional other).take (specs .textBox).length =
      (positional line).take (specs .textBox).length := by decide
  have options : ∀ spec ∈ optionSpecs .textBox,
      lastValue? (arguments other) spec.name = lastValue? (arguments line) spec.name := by
    simp only [optionSpecs, List.forall_mem_cons]
    exact ⟨by decide, by decide, nofun⟩
  obtain ⟨diagnosis, surplus⟩ := readLine_row (by decide) word 7
  exact ⟨word, same, diagnosis, surplus other same row options⟩

end Script

end Rirekisho
