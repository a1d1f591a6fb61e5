import Rirekisho.Proofs.Storage.Path
import Rirekisho.Schema.Model

namespace Rirekisho

/-- A part stands under a name somewhere in an outline. -/
inductive Outline.StandsIn (part : Outline) (name : String) : Outline → Prop
  | here {named : List (String × Outline)} (member : (name, part) ∈ named) : StandsIn part name (.parts named)
  | inside {named : List (String × Outline)} {entry : String × Outline} (member : entry ∈ named)
      (deep : StandsIn part name entry.2) : StandsIn part name (.parts named)
  | row {items : List Outline} {item : Outline} (member : item ∈ items) (deep : StandsIn part name item) :
      StandsIn part name (.row items)
  | list {items : List Outline} {item : Outline} (member : item ∈ items) (deep : StandsIn part name item) :
      StandsIn part name (.list items)

/-- The names of the parts that something is declared of. -/
def declaredNames : List String := ["stroke_number", "num", "positions", "month", "line_style"]

/-- What is declared of the part with a name. -/
structure Declares (name : String) (part : Outline) : Prop where
  count : name = "stroke_number" ∨ name = "num" → ∃ n : Int, part = .integer n ∧ 0 ≤ n
  positions : name = "positions" → ∃ items, part = .row items ∧ items ≠ []
  month : name = "month" → part = .absent ∨ ∃ n : Int, part = .integer n ∧ 1 ≤ n ∧ n ≤ 12
  style : name = "line_style" → part = .absent ∨ part = .style .solid ∨ part = .style .dashed

/-- Every part of the outline, at any depth, is as it is declared. -/
def Outline.Declared (outline : Outline) : Prop := ∀ name part, part.StandsIn name outline → Declares name part

/-- The month of an entry is the number of a month. -/
def Entry.Proper (entry : Entry) : Prop := ∀ m ∈ entry.month, 1 ≤ m ∧ m ≤ 12

/-- A polyline has points. -/
def Directive.Proper : Directive Float → Prop
  | .polyline _ positions _ _ => positions ≠ []
  | _ => True

/-- The photo of a record has a plain path, and its entries are proper. -/
def Record.Proper (record : Record) : Prop :=
  record.photo.Plain ∧ ∀ field, ∀ entry ∈ record.entries field, entry.Proper

/-- A thing that a description can have built. -/
def Schema.Model.Proper : Schema.Model → Prop
  | .command c => c.directive.Proper
  | .entry e => e.Proper
  | .record r => r.Proper
  | _ => True

namespace Declares

variable {name : String} {part : Outline}

/-- Of any other name nothing is declared. -/
theorem free (apart : name ∉ declaredNames) : Declares name part := by
  simp only [declaredNames, List.mem_cons, List.not_mem_nil, or_false, not_or] at apart
  obtain ⟨strokes, num, positions, month, style⟩ := apart
  exact ⟨fun named => absurd named (not_or.mpr ⟨strokes, num⟩), fun named => absurd named positions,
    fun named => absurd named month, fun named => absurd named style⟩

theorem of_count (named : name = "stroke_number" ∨ name = "num") (n : Nat) : Declares name (.integer n) where
  count _ := ⟨n, rfl, Int.natCast_nonneg n⟩
  positions same := by rcases named with rfl | rfl <;> exact absurd same (by decide)
  month same := by rcases named with rfl | rfl <;> exact absurd same (by decide)
  style same := by rcases named with rfl | rfl <;> exact absurd same (by decide)

theorem of_positions {items : List Outline} (some : items ≠ []) : Declares "positions" (.row items) where
  count named := absurd named (by decide)
  positions _ := ⟨items, rfl, some⟩
  month named := absurd named (by decide)
  style named := absurd named (by decide)

theorem of_month {month : Option Nat} (proper : ∀ m ∈ month, 1 ≤ m ∧ m ≤ 12) :
    Declares "month" (.ofOption (fun m => .integer (m : Nat)) month) where
  count named := absurd named (by decide)
  positions named := absurd named (by decide)
  month _ := by
    cases month with
    | none => exact .inl rfl
    | some m =>
      obtain ⟨low, high⟩ := proper m rfl
      exact .inr ⟨m, rfl, by omega, by omega⟩
  style named := absurd named (by decide)

theorem of_style (style : Option LineStyle) : Declares "line_style" (.ofOption .style style) where
  count named := absurd named (by decide)
  positions named := absurd named (by decide)
  month named := absurd named (by decide)
  style _ := by
    cases style with
    | none => exact .inl rfl
    | some style => cases style <;> simp [Outline.ofOption]

end Declares

namespace Outline.Declared

variable {β : Type} {name : String} {outline part : Outline} {named : List (String × Outline)} {items : List Outline}

theorem parts (each : ∀ entry ∈ named, Declares entry.1 entry.2 ∧ entry.2.Declared) :
    (Outline.parts named).Declared := by
  intro name part held
  cases held with
  | here member => exact (each _ member).1
  | inside member deep => exact (each _ member).2 _ _ deep

theorem nil : (Outline.parts []).Declared := parts (List.forall_mem_nil _)

theorem cons (own : Declares name part) (inner : part.Declared) (rest : (Outline.parts named).Declared) :
    (Outline.parts ((name, part) :: named)).Declared := by
  intro other deeper held
  cases held with
  | here member =>
    rcases List.mem_cons.mp member with same | later
    · cases same
      exact own
    · exact rest _ _ (.here later)
  | inside member deep =>
    rcases List.mem_cons.mp member with same | later
    · cases same
      exact inner _ _ deep
    · exact rest _ _ (.inside later deep)

theorem free (apart : name ∉ declaredNames) (inner : part.Declared)
    (rest : (Outline.parts named).Declared) : (Outline.parts ((name, part) :: named)).Declared :=
  cons (.free apart) inner rest

theorem row (each : ∀ item ∈ items, item.Declared) : (Outline.row items).Declared := by
  intro name part held
  cases held with
  | row member deep => exact each _ member _ _ deep

theorem list (each : ∀ item ∈ items, item.Declared) : (Outline.list items).Declared := by
  intro name part held
  cases held with
  | list member deep => exact each _ member _ _ deep

theorem number (x : Float) : (Outline.number x).Declared := fun _ _ held => nomatch held

theorem text (s : String) : (Outline.text s).Declared := fun _ _ held => nomatch held

theorem integer (n : Int) : (Outline.integer n).Declared := fun _ _ held => nomatch held

theorem truth (b : Bool) : (Outline.truth b).Declared := fun _ _ held => nomatch held

theorem style (style : LineStyle) : (Outline.style style).Declared := fun _ _ held => nomatch held

theorem ofOption {outline : β → Outline} (each : ∀ x, (outline x).Declared) (given : Option β) :
    (Outline.ofOption outline given).Declared := by
  cases given with
  | none => exact fun _ _ held => nomatch held
  | some x => exact each x

end Outline.Declared

theorem Point.declared (p : Point Float) : p.outline.Declared :=
  .free (by decide) (.number p.x) (.free (by decide) (.number p.y) .nil)

theorem Size.declared (s : Size Float) : s.outline.Declared :=
  .free (by decide) (.number s.width) (.free (by decide) (.number s.height) .nil)

theorem FontOptions.declared (font : FontOptions Float) : font.outline.Declared :=
  .free (by decide) (.ofOption .number _) (.free (by decide) (.ofOption .text _) .nil)

theorem LineOptions.declared (options : LineOptions Float) : options.outline.Declared :=
  .free (by decide) (.ofOption .number _) (.cons (.of_style _) (.ofOption .style _) .nil)

theorem TableColumns.declared (columns : TableColumns Float) {named : List (String × Outline)}
    (rest : (Outline.parts named).Declared) : (Outline.parts (columns.outline ++ named)).Declared :=
  .free (by decide) (.number _) <| .free (by decide) (.number _) <| .free (by decide) (.number _) <|
    .free (by decide) (.number _) <| .free (by decide) (.number _) rest

theorem Directive.declared {d : Directive Float} (proper : d.Proper) : (Outline.parts d.outline).Declared := by
  cases d with
  | string position value font =>
    exact .free (by decide) position.declared <| .free (by decide) (.text value) <|
      .free (by decide) font.declared .nil
  | line start delta options =>
    exact .free (by decide) start.declared <| .free (by decide) delta.declared <|
      .free (by decide) options.declared .nil
  | box position size options =>
    exact .free (by decide) position.declared <| .free (by decide) size.declared <|
      .free (by decide) options.declared .nil
  | photo position size => exact .free (by decide) position.declared <| .free (by decide) size.declared .nil
  | newPage => exact .nil
  | textBox position size value font =>
    exact .free (by decide) position.declared <| .free (by decide) size.declared <|
      .free (by decide) (.text value) <| .free (by decide) font.declared .nil
  | multiLines start direction count offset =>
    exact .free (by decide) start.declared <| .free (by decide) direction.declared <|
      .cons (.of_count (.inl rfl) count) (.integer _) <| .free (by decide) offset.declared .nil
  | polyline count positions options close =>
    have some : positions.map Point.outline ≠ [] := mt List.map_eq_nil_iff.mp proper
    exact .cons (.of_count (.inl rfl) count) (.integer _) <|
      .cons (.of_positions some) (.row (List.forall_mem_map.mpr fun p _ => p.declared)) <|
      .free (by decide) options.declared <| .free (by decide) (.ofOption .truth close) .nil
  | yearMonthBox title height count value =>
    exact .free (by decide) (.text title) <| .free (by decide) (.number height) <|
      .cons (.of_count (.inr rfl) count) (.integer _) <| .free (by decide) (.text value) .nil
  | miscBox title y height value =>
    exact .free (by decide) (.text title) <| .free (by decide) (.number y) <| .free (by decide) (.number height) <|
      .free (by decide) (.text value) .nil
  | history columns value font =>
    exact columns.declared <| .free (by decide) (.text value) <| .free (by decide) font.declared .nil
  | educationExperience columns captionX endX font =>
    exact columns.declared <| .free (by decide) (.number captionX) <| .free (by decide) (.number endX) <|
      .free (by decide) font.declared .nil

theorem Entry.declared {entry : Entry} (proper : entry.Proper) : entry.outline.Declared :=
  .free (by decide) (.ofOption .text _) <| .cons (.of_month proper) (.ofOption (fun _ => .integer _) _) <|
    .free (by decide) (.text _) .nil

theorem Record.declared {record : Record} (proper : record.Proper) : (Outline.parts record.outline).Declared := by
  have text (field : TextField) : field.label ∉ declaredNames := by cases field <;> decide
  have list (field : ListField) : field.label ∉ declaredNames := by cases field <;> decide
  have photo : "photo" ∉ declaredNames := by decide
  refine .parts fun part member => ?_
  rw [Record.outline, List.mem_append, List.mem_cons, List.mem_map, List.mem_map] at member
  rcases member with ⟨field, _, rfl⟩ | rfl | ⟨field, _, rfl⟩
  · exact ⟨.free (text field), .text _⟩
  · exact ⟨.free photo, .text _⟩
  · refine ⟨.free (list field), .list (List.forall_mem_map.mpr fun entry own => ?_)⟩
    exact Entry.declared (proper.2 field entry own)

theorem Schema.Model.declared {m : Schema.Model} (proper : m.Proper) : m.outline.Declared := by
  cases m with
  | point p => exact p.declared
  | size s => exact s.declared
  | fontOptions font => exact font.declared
  | lineOptions options => exact options.declared
  | command c =>
    exact .free (by decide) (.ofOption .integer _) <| .free (by decide) (.text _) <| Directive.declared proper
  | columns line table =>
    have alone := table.declared .nil
    rw [List.append_nil] at alone
    exact .free (by decide) (.ofOption .integer _) alone
  | entry e => exact Entry.declared proper
  | record r => exact Record.declared proper

end Rirekisho
