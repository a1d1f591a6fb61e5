import Mathlib.Tactic.IntervalCases
import Rirekisho.Proofs.Drawing.Layout
import Rirekisho.Proofs.Schema.Record

namespace Rirekisho

variable {α : Type}

/-- What stands on one step: words in a column of their own, or an entry. -/
inductive TableRow (α : Type) where
  | words (x : α) (text : String)
  | entry (entry : Entry)

/-- The texts of a row: of an entry the year, the digits of the month and the value. -/
def TableRow.texts : TableRow α → List String
  | .words _ text => [text]
  | .entry ⟨year, month, value⟩ => [year.getD "", month.elim "" toString, value]

/-- The rows of the table of education and experience. -/
def curriculumRows (captionX endX : α) (education experience : List Entry) : List (TableRow α) :=
  .words captionX "学歴" :: education.map .entry ++
    (.words captionX "職歴" :: experience.map .entry ++ [.words endX "以上"])

section
variable (captionX endX : α) {education experience entries : List Entry} {i : Nat} {entry : Entry}

theorem getElem?_entries_append (found : entries[i]? = some entry) (more : List (TableRow α)) :
    (entries.map .entry ++ more)[i]? = some (.entry entry) := by
  have within : i < (entries.map (TableRow.entry (α := α))).length := by
    rw [List.length_map]
    exact (List.getElem?_eq_some_iff.mp found).1
  rw [List.getElem?_append_left within, List.getElem?_map, found]
  rfl

theorem curriculumRows_length : (curriculumRows captionX endX education experience).length =
    education.length + experience.length + 3 := by
  simp only [curriculumRows, List.length_append, List.length_cons, List.length_map, List.length_nil]
  omega

theorem curriculumRows_education (found : education[i]? = some entry) :
    (curriculumRows captionX endX education experience)[1 + i]? = some (.entry entry) := by
  rw [curriculumRows, List.cons_append, Nat.add_comm, List.getElem?_cons_succ]
  exact getElem?_entries_append found _

theorem curriculumRows_later (i : Nat) :
    (curriculumRows captionX endX education experience)[education.length + 1 + i]? =
      (TableRow.words captionX "職歴" :: experience.map .entry ++ [.words endX "以上"])[i]? := by
  have before : (TableRow.words captionX "学歴" :: education.map .entry).length = education.length + 1 := by
    rw [List.length_cons, List.length_map]
  rw [curriculumRows, ← before, List.getElem?_append_right (Nat.le_add_right _ _), Nat.add_sub_cancel_left]

theorem curriculumRows_experience (found : experience[i]? = some entry) :
    (curriculumRows captionX endX education experience)[education.length + 2 + i]? = some (.entry entry) := by
  have step : education.length + 2 + i = education.length + 1 + (i + 1) := by omega
  rw [step, curriculumRows_later, List.cons_append, List.getElem?_cons_succ]
  exact getElem?_entries_append found _

theorem curriculumRows_mark :
    (curriculumRows captionX endX education experience)[education.length + experience.length + 2]? =
      some (.words endX "以上") := by
  have step : education.length + experience.length + 2 = education.length + 1 + (experience.length + 1) := by omega
  have before : (TableRow.words captionX "職歴" :: experience.map .entry).length = experience.length + 1 := by
    rw [List.length_cons, List.length_map]
  rw [step, curriculumRows_later, ← before]
  exact List.getElem?_concat_length

end

variable [Scalar α]

/-- The height of the step with the number: each is the padding below the one before. -/
def stepHeight (padding y : α) : Nat → α
  | 0 => y
  | number + 1 => stepHeight padding y number - padding

/-- How far a month is moved to the left: those with two digits are, by a third of a line height. -/
def monthShift (lineHeight : α) : Option Nat → α
  | some 10 | some 11 | some 12 => lineHeight / 3.0
  | _ => 0.0

/-- The blocks of a row at a height, each in its column. -/
def TableRow.blocks (columns : TableColumns α) (font : FontOptions α) (y : α) : TableRow α → List (Block α)
  | .words x text => [⟨⟨x, y⟩, text⟩]
  | .entry ⟨year, month, value⟩ =>
    [⟨⟨columns.yearX, y⟩, year.getD ""⟩,
      ⟨⟨columns.monthX - monthShift font.lineHeight month, y⟩, month.elim "" toString⟩,
      ⟨⟨columns.valueX, y⟩, value⟩]

/-- The blocks of rows, one on each step from the one with the given number on. -/
def tableBlocks (columns : TableColumns α) (font : FontOptions α) (y : α) (first : Nat)
    (rows : List (TableRow α)) : List (Block α) :=
  (rows.zipIdx first).flatMap fun (row, number) => row.blocks columns font (stepHeight columns.padding y number)

section
variable {columns : TableColumns α} {font : FontOptions α} {y : α}

theorem tableBlocks_append (first : Nat) (rows more : List (TableRow α)) :
    tableBlocks columns font y first (rows ++ more) =
      tableBlocks columns font y first rows ++ tableBlocks columns font y (first + rows.length) more := by
  rw [tableBlocks, List.zipIdx_append, List.flatMap_append]
  rfl

theorem tableBlocks_cons (first : Nat) (row : TableRow α) (rows : List (TableRow α)) :
    tableBlocks columns font y first (row :: rows) =
      row.blocks columns font (stepHeight columns.padding y first) ++
        tableBlocks columns font y (first + 1) rows := by
  rw [tableBlocks, List.zipIdx_cons, List.flatMap_cons]
  rfl

/-- The lines that are drawn for rows, joined again, are the texts of the rows. -/
theorem tableBlocks_drawn (job : Job α) (page first : Nat) (rows : List (TableRow α)) :
    (tableBlocks columns font y first rows).map (Block.drawn job page font) = rows.flatMap TableRow.texts := by
  induction rows generalizing first with
  | nil => rfl
  | cons row rest ih =>
    rw [tableBlocks_cons, List.map_append, ih, List.flatMap_cons]
    cases row <;> simp only [TableRow.blocks, TableRow.texts, List.map_cons, List.map_nil, Block.drawn_eq]

theorem tableBlocks_curriculum (captionX endX : α) (education experience : List Entry) :
    tableBlocks columns font y 0 (curriculumRows captionX endX education experience) =
      tableBlocks columns font y 0 (.words captionX "学歴" :: education.map .entry) ++
        (tableBlocks columns font y (0 + 1 + education.length) (.words captionX "職歴" :: experience.map .entry) ++
          [⟨⟨endX, stepHeight columns.padding y (0 + 1 + education.length + 1 + experience.length)⟩, "以上"⟩]) := by
  have second : 0 + (education.length + 1) = 0 + 1 + education.length := by omega
  have last : 0 + 1 + education.length + (experience.length + 1) =
      0 + 1 + education.length + 1 + experience.length := by omega
  simp only [curriculumRows, tableBlocks_append, List.length_cons, List.length_map]
  rw [second, last]
  rfl

end

theorem monthText_eq {month : Option Nat} (dated : ∀ m ∈ month, 1 ≤ m ∧ m ≤ 12) :
    monthText month = month.elim "" toString := by
  cases month with
  | none => rfl
  | some m =>
    obtain ⟨low, high⟩ := dated m rfl
    interval_cases m <;> rfl

theorem monthX_eq {month : Option Nat} (dated : ∀ m ∈ month, 1 ≤ m ∧ m ≤ 12) (column lineHeight : α) :
    monthX column lineHeight (monthText month) = column - monthShift lineHeight month := by
  cases month with
  | none => rfl
  | some m =>
    obtain ⟨low, high⟩ := dated m rfl
    interval_cases m <;> rfl

variable (answers : Answers α) {job : Job α} {font : FontOptions α}

/-- A step further for each entry, and its three blocks on the step. -/
theorem drawEntries_makes (registered : font.face ∈ job.fonts.names) (page : Nat) (columns : TableColumns α) (y : α)
    (first : Nat) {entries : List Entry} (dated : ∀ entry ∈ entries, ∀ m ∈ entry.month, 1 ≤ m ∧ m ≤ 12) :
    (drawEntries (.recording answers) job page columns font (stepHeight columns.padding y first) entries).Makes
      (stepHeight columns.padding y (first + entries.length))
      ((tableBlocks columns font y first (entries.map .entry)).flatMap (Block.calls job page font)) := by
  -- The running height is that of a step with a number, and the entries after the first begin one step further.
  induction entries generalizing first with
  | nil => exact .pure _
  | cons entry rest ih =>
    obtain ⟨month, others⟩ := List.forall_mem_cons.mp dated
    have place := placeText_makes answers registered page
    have later := ih (first + 1) others
    rw [List.map_cons, tableBlocks_cons, List.flatMap_append, List.length_cons, ← Nat.add_assoc, Nat.add_right_comm]
    unfold drawEntries
    dsimp only
    rw [monthX_eq month, monthText_eq month]
    simp only [TableRow.blocks, List.flatMap_cons, List.flatMap_nil, List.append_nil, List.append_assoc]
    exact (place ⟨_, _⟩).bind ((place ⟨_, _⟩).bind ((place ⟨_, _⟩).bind later))

/-- A caption on a step, and each entry on a step after it. -/
theorem drawCaptioned_makes (registered : font.face ∈ job.fonts.names) (page : Nat) (columns : TableColumns α)
    (captionX y : α) (first : Nat) (caption : String) {entries : List Entry}
    (dated : ∀ entry ∈ entries, ∀ m ∈ entry.month, 1 ≤ m ∧ m ≤ 12) :
    (drawCaptioned (.recording answers) job page columns font captionX (stepHeight columns.padding y first) caption
        entries).Makes
      (stepHeight columns.padding y (first + 1 + entries.length))
      ((tableBlocks columns font y first (.words captionX caption :: entries.map .entry)).flatMap
        (Block.calls job page font)) := by
  have later := drawEntries_makes answers registered page columns y (first + 1) dated
  rw [tableBlocks_cons, List.flatMap_append]
  simp only [TableRow.blocks, List.flatMap_cons, List.flatMap_nil, List.append_nil]
  exact (placeText_makes answers registered page ⟨_, _⟩).bind later

/-- The entries of a list stand below each other in its order, the first of them a padding above the height of the
table; what is drawn of each is its year, its month and its value. -/
theorem draw_history {data : Entries} (described : Schema.recordOf data = .valid job.record)
    (registered : font.face ∈ job.fonts.names) (page : Nat) (line : Option Int) (columns : TableColumns α)
    (field : ListField) (r : Recording α) :
    let command : Command α := ⟨line, .history columns (Variable.ofList field) font⟩
    let rows := (job.record.entries field).map TableRow.entry
    let blocks := tableBlocks columns font (columns.y + columns.padding) 0 rows
    (command.draw (.recording answers) job page).outcome r =
        (.ok page, r.addAll (blocks.flatMap (Block.calls job page font))) ∧
      blocks.map (Block.drawn job page font) = rows.flatMap TableRow.texts := by
  intro command rows blocks
  have made := drawEntries_makes answers registered page columns (columns.y + columns.padding) 0
    (Schema.recordOf_month described field)
  have whole : (command.directive.draw (.recording answers) job page).Makes page
      (blocks.flatMap (Block.calls job page font)) := by
    have found : job.record.resolveList (Variable.ofList field) = .ok (job.record.entries field) := by
      cases field <;> rfl
    simp only [Directive.draw, command, found]
    exact made.turn page
  exact ⟨whole.located line _ r, tableBlocks_drawn job page 0 rows⟩

/-- A record whose texts are empty and whose lists are all the same. -/
theorem Schema.recordOf_alike (rows : List Entry) {v : Value}
    (checked : Schema.list (entriesOf "Entry" entryOf) v = .valid rows) :
    recordOf (TextField.all.map (fun field => (.text field.label, .text "")) ++
        (.text "photo", .text "photo.jpg") :: ListField.all.map fun field => (.text field.label, v)) =
      .valid ⟨fun _ => "", Path.ofText "photo.jpg", fun _ => rows⟩ := by
  refine recordOf_eq_valid.mpr ⟨fun field => ?_, rfl, fun field => ?_⟩
  · cases field <;> rfl
  · refine (Entries.required_eq_valid ?_).mpr checked
    cases field <;> rfl

/-- Two entries: one of a month with two digits and two lines of text, and an empty one. -/
theorem draw_history_december :
    let rows : List Entry := [⟨some "2001", some 12, "a\nb"⟩, ⟨none, none, ""⟩]
    let job : Job Rat := ⟨⟨fun _ => "", Path.ofText "photo.jpg", fun _ => rows⟩, ⟨[("mincho", Path.ofText "a.ttf")]⟩,
      5, Path.ofText "photo.jpg"⟩
    let size : Rat := 1080 / 127
    let command : Command Rat := ⟨some 3, .history ⟨100, 0, 20, 40, 10⟩ "$licences" ⟨some size, none⟩⟩
    (∃ data, Schema.recordOf data = .valid job.record) ∧ "mincho" ∈ job.fonts.names ∧
      (command.draw (recorder ⟨40, 30⟩) job 1).outcome {} = (.ok 1, Recording.addAll {}
        [.text 1 "2001" ⟨5, 112⟩ "mincho" size, .text 1 "12" ⟨24, 112⟩ "mincho" size,
          .text 1 "a" ⟨45, 112⟩ "mincho" size, .text 1 "b" ⟨45, 109⟩ "mincho" size,
          .text 1 "" ⟨5, 102⟩ "mincho" size, .text 1 "" ⟨25, 102⟩ "mincho" size,
          .text 1 "" ⟨45, 102⟩ "mincho" size]) := by
  intro rows job size command
  have described := Schema.recordOf_alike rows (v := .list
    [.map [(.text "year", .int 2001), (.text "month", .text "12"), (.text "value", .text "a\nb")],
      .map [(.text "value", .text "")]]) rfl
  have registered : (⟨some size, none⟩ : FontOptions Rat).face ∈ job.fonts.names := List.mem_cons_self ..
  have drawn := (draw_history (.usual ⟨40, 30⟩) described registered 1 (some 3) ⟨100, 0, 20, 40, 10⟩ .licences {}).1
  refine ⟨⟨_, described⟩, registered, drawn.trans ?_⟩
  congr 2
  decide +kernel

/-- Education and experience stand below their captions and the mark below both, every one of them on the step that
its number in the table says, in the type of the command. -/
theorem draw_educationExperience {data : Entries} (described : Schema.recordOf data = .valid job.record)
    (registered : font.face ∈ job.fonts.names) (page : Nat) (line : Option Int) (columns : TableColumns α)
    (captionX endX : α) (r : Recording α) :
    let command : Command α := ⟨line, .educationExperience columns captionX endX font⟩
    let education := job.record.entries .education
    let experience := job.record.entries .experience
    let rows := curriculumRows captionX endX education experience
    let blocks := tableBlocks columns font columns.y 0 rows
    (command.draw (.recording answers) job page).outcome r =
        (.ok page, r.addAll (blocks.flatMap (Block.calls job page font))) ∧
      blocks.map (Block.drawn job page font) = rows.flatMap TableRow.texts ∧
      rows.length = education.length + experience.length + 3 ∧
      rows[0]? = some (.words captionX "学歴") ∧
      (∀ i entry, education[i]? = some entry → rows[1 + i]? = some (.entry entry)) ∧
      rows[education.length + 1]? = some (.words captionX "職歴") ∧
      (∀ j entry, experience[j]? = some entry → rows[education.length + 2 + j]? = some (.entry entry)) ∧
      rows[education.length + experience.length + 2]? = some (.words endX "以上") := by
  intro command education experience rows blocks
  have months := Schema.recordOf_month described
  have first := drawCaptioned_makes answers registered page columns captionX columns.y 0 "学歴" (months .education)
  have second := drawCaptioned_makes answers registered page columns captionX columns.y (0 + 1 + education.length)
    "職歴" (months .experience)
  have mark := placeText_makes answers registered page
    ⟨⟨endX, stepHeight columns.padding columns.y (0 + 1 + education.length + 1 + experience.length)⟩, "以上"⟩
  have whole : (command.directive.draw (.recording answers) job page).Makes page
      (blocks.flatMap (Block.calls job page font)) := by
    simp only [blocks, rows, tableBlocks_curriculum, List.flatMap_append, List.flatMap_singleton]
    exact first.bind (second.bind (mark.turn page))
  exact ⟨whole.located line _ r, tableBlocks_drawn job page 0 rows, curriculumRows_length captionX endX,
    rfl, fun _ _ => curriculumRows_education captionX endX, curriculumRows_later captionX endX 0,
    fun _ _ => curriculumRows_experience captionX endX, curriculumRows_mark captionX endX⟩

/-- One entry each, of a month with two digits. -/
theorem draw_educationExperience_each :
    let rows : List Entry := [⟨some "2001", some 12, "a"⟩]
    let job : Job Rat := ⟨⟨fun _ => "", Path.ofText "photo.jpg", fun _ => rows⟩, ⟨[("mincho", Path.ofText "a.ttf")]⟩,
      5, Path.ofText "photo.jpg"⟩
    let size : Rat := 1080 / 127
    let command : Command Rat := ⟨some 3, .educationExperience ⟨100, 0, 20, 40, 10⟩ 60 80 ⟨some size, none⟩⟩
    (∃ data, Schema.recordOf data = .valid job.record) ∧ "mincho" ∈ job.fonts.names ∧
      (command.draw (recorder ⟨40, 30⟩) job 1).outcome {} = (.ok 1, Recording.addAll {}
        [.text 1 "学歴" ⟨65, 102⟩ "mincho" size, .text 1 "2001" ⟨5, 92⟩ "mincho" size,
          .text 1 "12" ⟨24, 92⟩ "mincho" size, .text 1 "a" ⟨45, 92⟩ "mincho" size,
          .text 1 "職歴" ⟨65, 82⟩ "mincho" size, .text 1 "2001" ⟨5, 72⟩ "mincho" size,
          .text 1 "12" ⟨24, 72⟩ "mincho" size, .text 1 "a" ⟨45, 72⟩ "mincho" size,
          .text 1 "以上" ⟨85, 62⟩ "mincho" size]) := by
  intro rows job size command
  have described := Schema.recordOf_alike rows (v := .list
    [.map [(.text "year", .text "2001"), (.text "month", .int 12), (.text "value", .text "a")]]) rfl
  have registered : (⟨some size, none⟩ : FontOptions Rat).face ∈ job.fonts.names := List.mem_cons_self ..
  have drawn := (draw_educationExperience (.usual ⟨40, 30⟩) described registered 1 (some 3) ⟨100, 0, 20, 40, 10⟩ 60 80
    {}).1
  refine ⟨⟨_, described⟩, registered, drawn.trans ?_⟩
  congr 2
  decide +kernel

end Rirekisho
