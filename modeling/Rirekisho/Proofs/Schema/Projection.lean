import Rirekisho.Proofs.Schema.Declared
import Rirekisho.Proofs.Schema.Record

namespace Rirekisho

open Value

variable {β γ : Type}

namespace Checked

theorem valid_map {check : Checked β} {x : β} (f : β → γ) (found : check = .valid x) : f <$> check = .valid (f x) :=
  map_eq_valid.mpr ⟨x, found, rfl⟩

theorem valid_seq {f : Checked (β → γ)} {check : Checked β} {g : β → γ} {x : β} (made : f = .valid g)
    (found : check = .valid x) : f <*> check = .valid (g x) :=
  seq_eq_valid.mpr ⟨g, x, made, found, rfl⟩

/-- Whatever a check finds is so. -/
def Finds (check : Checked β) (good : β → Prop) : Prop := ∀ x, check = .valid x → good x

theorem Finds.map {f : β → γ} {check : Checked β} {good : γ → Prop} (each : ∀ x, check = .valid x → good (f x)) :
    (f <$> check).Finds good := by
  intro y found
  obtain ⟨x, own, rfl⟩ := map_eq_valid.mp found
  exact each x own

theorem Finds.seq {f : Checked (β → γ)} {check : Checked β} {good : γ → Prop}
    (each : f.Finds fun g => ∀ x, check = .valid x → good (g x)) : (f <*> check).Finds good := by
  intro y found
  obtain ⟨g, x, made, own, rfl⟩ := seq_eq_valid.mp found
  exact each g made x own

end Checked

namespace Schema

open Checked

variable {entries : Entries} {name : String} {v : Value}

section
variable {check : Value → Checked β} {outline : β → Outline}

theorem required_again {x : β} (found : lookup? (.text name) entries = some v) (again : check v = .valid x) :
    entries.required name check = .valid x := (Entries.required_eq_valid found).mpr again

theorem optional_again {x otherwise : β} (found : lookup? (.text name) entries = some v)
    (again : check v = .valid x) : entries.optional name otherwise check = .valid x :=
  (Entries.optional_eq_valid found).mpr again

theorem nullable_again (solid : ∀ x, (outline x).value ≠ .null) {given : Option β}
    (again : ∀ x ∈ given, check (outline x).value = .valid x) :
    nullable check (Outline.ofOption outline given).value = .valid given := by
  cases given with
  | none => rfl
  | some x =>
    have mapped : nullable check (outline x).value = some <$> check (outline x).value := by
      rw [nullable]
      · rfl
      · exact solid x
    exact mapped.trans (valid_map some (again x rfl))

theorem each_again {xs : List β} (again : ∀ x ∈ xs, check (outline x).value = .valid x) (number : Nat) :
    each check number (Outline.values (xs.map outline)) = .valid xs := by
  induction xs generalizing number with
  | nil => rfl
  | cons x rest ih =>
    obtain ⟨first, others⟩ := List.forall_mem_cons.mp again
    exact each_cons_eq_valid.mpr ⟨x, rest, first, ih others _, rfl⟩

end

theorem count_again (n : Nat) : count (.int n) = .valid n :=
  also_eq_valid.mpr ⟨n, rfl, between_eq_valid.mpr ⟨Int.natCast_nonneg n, nofun, Int.toNat_natCast n⟩⟩

theorem month_again {m : Nat} (proper : 1 ≤ m ∧ m ≤ 12) : month (.int m) = .valid m := by
  refine also_eq_valid.mpr ⟨m, rfl, between_eq_valid.mpr ⟨by omega, ?_, Int.toNat_natCast m⟩⟩
  rintro _ ⟨⟩
  omega

theorem point_again (p : Point Float) : point p.outline.value = .valid p := rfl

theorem size_again (s : Size Float) : size s.outline.value = .valid s := rfl

theorem fontOptions_again (font : FontOptions Float) :
    entriesOf "FontOptions" fontOptionsOf font.outline.value = .valid font :=
  valid_seq (valid_map _ (optional_again rfl (nullable_again nofun fun _ _ => rfl)))
    (optional_again rfl (nullable_again nofun fun _ _ => rfl))

theorem lineOptions_again (options : LineOptions Float) :
    entriesOf "LineOptions" lineOptionsOf options.outline.value = .valid options :=
  valid_seq (valid_map _ (optional_again rfl (nullable_again nofun fun _ _ => rfl)))
    (optional_again rfl (nullable_again nofun fun style _ => by cases style <;> rfl))

theorem points_again {positions : List (Point Float)} (some : positions ≠ []) :
    someList point (.list (Outline.values (positions.map Point.outline))) = .valid positions := by
  refine also_eq_valid.mpr ⟨positions, each_again (fun p _ => point_again p) 0, if_neg ?_⟩
  rwa [List.isEmpty_iff]

theorem fontIn_again {font : FontOptions Float}
    (found : lookup? (.text "font_options") entries = some font.outline.value) : fontIn entries = .valid font :=
  optional_again found (fontOptions_again font)

theorem lineIn_again {options : LineOptions Float}
    (found : lookup? (.text "line_options") entries = some options.outline.value) : lineIn entries = .valid options :=
  optional_again found (lineOptions_again options)

/-- A table stands in the entries by its columns. -/
theorem columnsOf_again {columns : TableColumns Float} (y : lookup? (.text "y") entries = some (.float columns.y))
    (year : lookup? (.text "year_x") entries = some (.float columns.yearX))
    (month : lookup? (.text "month_x") entries = some (.float columns.monthX))
    (value : lookup? (.text "value_x") entries = some (.float columns.valueX))
    (padding : lookup? (.text "padding") entries = some (.float columns.padding)) :
    columnsOf entries = .valid columns := by
  have column {name : String} {x : Float} (found : lookup? (.text name) entries = some (.float x)) :
      entries.required name number = .valid x := required_again found rfl
  exact valid_seq (valid_seq (valid_seq (valid_seq (valid_map _ (column y)) (column year)) (column month))
    (column value)) (column padding)

theorem lineNumberIn_again {line : Option Int}
    (found : lookup? (.text "line_no") entries = some (Outline.ofOption .integer line).value) :
    lineNumberIn entries = .valid line := optional_again found (nullable_again nofun fun _ _ => rfl)

/-- What a command asks for is asked for by its own parts. -/
theorem directiveOf_again (line : Option Int) {d : Directive Float} (proper : d.Proper) :
    directiveOf d.keyword (Outline.entries (Command.outline ⟨line, d⟩)) = .valid d := by
  have here : keywordIn d.keyword (Outline.entries (Command.outline ⟨line, d⟩)) = .valid () :=
    optional_again rfl (if_pos rfl)
  cases d with
  | string position value font =>
    exact valid_seq (valid_seq (valid_seq (valid_map _ here) (required_again rfl (point_again position)))
      (required_again rfl rfl)) (fontIn_again rfl)
  | line start delta options =>
    exact valid_seq (valid_seq (valid_seq (valid_map _ here) (required_again rfl (point_again start)))
      (required_again rfl (point_again delta))) (lineIn_again rfl)
  | box position size options =>
    exact valid_seq (valid_seq (valid_seq (valid_map _ here) (required_again rfl (point_again position)))
      (required_again rfl (size_again size))) (lineIn_again rfl)
  | photo position size =>
    exact valid_seq (valid_seq (valid_map _ here) (required_again rfl (point_again position)))
      (required_again rfl (size_again size))
  | newPage => exact valid_map _ here
  | textBox position size value font =>
    exact valid_seq (valid_seq (valid_seq (valid_seq (valid_map _ here) (required_again rfl (point_again position)))
      (required_again rfl (size_again size))) (required_again rfl rfl)) (fontIn_again rfl)
  | multiLines start direction count offset =>
    exact valid_seq (valid_seq (valid_seq (valid_seq (valid_map _ here) (required_again rfl (point_again start)))
      (required_again rfl (point_again direction))) (required_again rfl (count_again count)))
      (required_again rfl (point_again offset))
  | polyline count positions options close =>
    have closed : nullable truth (Outline.ofOption .truth close).value = .valid close :=
      nullable_again nofun fun _ _ => rfl
    exact valid_seq (valid_seq (valid_seq (valid_seq (valid_map _ here) (required_again rfl (count_again count)))
      (required_again rfl (points_again proper))) (lineIn_again rfl)) (optional_again rfl closed)
  | yearMonthBox title height count value =>
    exact valid_seq (valid_seq (valid_seq (valid_seq (valid_map _ here) (required_again rfl rfl))
      (required_again rfl rfl)) (required_again rfl (count_again count))) (required_again rfl rfl)
  | miscBox title y height value =>
    exact valid_seq (valid_seq (valid_seq (valid_seq (valid_map _ here) (required_again rfl rfl))
      (required_again rfl rfl)) (required_again rfl rfl)) (required_again rfl rfl)
  | history columns value font =>
    exact valid_seq (valid_seq (valid_seq (valid_map _ (columnsOf_again rfl rfl rfl rfl rfl)) here)
      (required_again rfl rfl)) (fontIn_again rfl)
  | educationExperience columns captionX endX font =>
    exact valid_seq (valid_seq (valid_seq (valid_seq (valid_map _ (columnsOf_again rfl rfl rfl rfl rfl)) here)
      (required_again rfl rfl)) (required_again rfl rfl)) (fontIn_again rfl)

theorem entryOf_again {entry : Entry} (proper : entry.Proper) :
    entriesOf "Entry" entryOf entry.outline.value = .valid entry :=
  entryOf_eq_valid.mpr ⟨optional_again rfl (nullable_again nofun fun _ _ => rfl),
    optional_again rfl (nullable_again nofun fun m dated => month_again (proper m dated)), required_again rfl rfl⟩

/-- The part of a record in a field. -/
def partOf (record : Record) : RecordField → Outline
  | .text field => .text (record.text field)
  | .photo => .text record.photo.text
  | .entries field => .list ((record.entries field).map Entry.outline)

/-- The fields of a record in the order of its outline. -/
def outlined : List RecordField := TextField.all.map .text ++ .photo :: ListField.all.map .entries

theorem mem_outlined (field : RecordField) : field ∈ outlined := by
  cases field with
  | text field => cases field <;> simp [outlined, TextField.all]
  | photo => simp [outlined]
  | entries field => cases field <;> simp [outlined, ListField.all]

theorem outline_record (record : Record) :
    record.outline = outlined.map fun field => (field.label, partOf record field) := by
  rw [outlined, List.map_append, List.map_cons, List.map_map, List.map_map]
  rfl

/-- Parts with different names are found under them. -/
theorem lookup?_entries {κ : Type} {label : κ → String} (distinct : label.Injective) (part : κ → Outline)
    {keys : List κ} {key : κ} (member : key ∈ keys) :
    lookup? (.text (label key)) (Outline.entries (keys.map fun k => (label k, part k))) = some (part key).value := by
  induction keys with
  | nil => cases member
  | cons k rest ih =>
    rw [List.map_cons, Outline.entries, lookup?_cons]
    split
    next same => rw [distinct (Value.text.inj (sameKey_text.mp same))]
    next other =>
      have later : key ∈ rest := (List.mem_cons.mp member).resolve_left fun here =>
        other (sameKey_text.mpr (here ▸ rfl))
      exact ih later

theorem recordOf_again {record : Record} (proper : record.Proper) :
    recordOf (Outline.entries record.outline) = .valid record := by
  have found (field : RecordField) : lookup? (.text field.label) (Outline.entries record.outline) =
      some (partOf record field).value := by
    rw [outline_record]
    exact lookup?_entries RecordField.label_injective _ (mem_outlined field)
  refine recordOf_eq_valid.mpr ⟨fun field => required_again (found (.text field)) rfl, ?_, fun field => ?_⟩
  · exact required_again (found .photo) (congrArg Checked.valid (Path.ofText_text proper.1))
  · have rows := each_again (fun entry own => entryOf_again (proper.2 field entry own)) 0
    exact required_again (found (.entries field)) rows

/-- The integer that stands under a name among the entries. -/
def Given (entries : Entries) (name : String) (n : Int) : Prop :=
  ∃ v, lookup? (.text name) entries = some v ∧ integer v = .valid n

theorem integer_of_between {low : Int} {high : Option Int} {v : Value} {k : Nat} (natural : 0 ≤ low)
    (checked : (integer v).also (between low high) = .valid k) : integer v = .valid k := by
  obtain ⟨n, found, bounded⟩ := also_eq_valid.mp checked
  obtain ⟨above, _, same⟩ := between_eq_valid.mp bounded
  rw [found, ← same, Int.toNat_of_nonneg (Int.le_trans natural above)]

theorem given_of_count {k : Nat} (built : entries.required name count = .valid k) : Given entries name k :=
  (Entries.exists_of_required built).imp fun _ found => found.imp_right (integer_of_between (Int.le_refl 0))

theorem given_of_nullable {check : Value → Checked β} {number : β → Int}
    (takes : ∀ v x, check v = .valid x → integer v = .valid (number x)) {given : Option β}
    (built : entries.optional name none (nullable check) = .valid given) {n : Int}
    (same : Outline.integer n = .ofOption (fun x => .integer (number x)) given) : Given entries name n := by
  cases given with
  | none => cases same
  | some x =>
    cases same
    exact (exists_of_nullable built).imp fun v found => found.imp_right (takes v x)

theorem given_of_line {line : Option Int} (built : lineNumberIn entries = .valid line) {n : Int}
    (same : Outline.integer n = .ofOption .integer line) : Given entries "line_no" n :=
  given_of_nullable (fun _ _ checked => checked) built same

theorem plain_of_path {v : Value} {p : Path} (checked : path v = .valid p) : p.Plain := by
  cases v with
  | text s =>
    cases checked
    exact Path.plain_ofText s
  | _ => cases checked

/-- The count that a directive has, under its name. -/
def count? : Directive Float → Option (String × Nat)
  | .multiLines _ _ count _ | .polyline count _ _ _ => some ("stroke_number", count)
  | .yearMonthBox _ _ count _ => some ("num", count)
  | _ => none

theorem count?_of_mem {d : Directive Float} {n : Int} (member : (name, Outline.integer n) ∈ d.outline) :
    ∃ k : Nat, count? d = some (name, k) ∧ n = k := by
  cases d with
  | polyline count positions options close =>
    cases close <;> simp_all [Directive.outline, count?, LineOptions.outline, Outline.ofOption]
  | _ =>
    simp_all [Directive.outline, count?, Point.outline, Size.outline, FontOptions.outline, LineOptions.outline,
      TableColumns.outline]

/-- What the entries of a command ask for: its keyword is the given one, it is proper, and its count is the
integer that they have for it. -/
structure Asked (keyword : Keyword) (entries : Entries) (d : Directive Float) : Prop where
  keyword : d.keyword = keyword
  proper : d.Proper
  given : ∀ name k, count? d = some (name, k) → Given entries name k

theorem Asked.plain {keyword : Keyword} {d : Directive Float} (same : d.keyword = keyword) (proper : d.Proper)
    (none : count? d = none) : Asked keyword entries d :=
  ⟨same, proper, fun _ _ counted => nomatch none.symm.trans counted⟩

theorem Asked.counted {keyword : Keyword} {d : Directive Float} {k : Nat} (same : d.keyword = keyword)
    (proper : d.Proper) (counts : count? d = some (name, k)) (built : entries.required name count = .valid k) :
    Asked keyword entries d := by
  refine ⟨same, proper, fun other n counted => ?_⟩
  cases counts.symm.trans counted
  exact given_of_count built

theorem ne_nil_of_someList {check : Value → Checked β} {v : Value} {xs : List β}
    (checked : someList check v = .valid xs) : xs ≠ [] := by
  unfold someList at checked
  split at checked
  next =>
    obtain ⟨ys, _, kept⟩ := also_eq_valid.mp checked
    rintro rfl
    split at kept
    next => cases kept
    next some =>
      cases kept
      exact some rfl
  next => cases checked

/-- Three keywords ask for a count, one of them for points as well; the others leave nothing to be shown. -/
theorem directiveOf_asked (keyword : Keyword) (entries : Entries) :
    (directiveOf keyword entries).Finds (Asked keyword entries) := by
  cases keyword with
  | string => exact .seq <| .seq <| .seq <| .map fun _ _ _ _ _ _ _ _ => .plain rfl trivial rfl
  | line => exact .seq <| .seq <| .seq <| .map fun _ _ _ _ _ _ _ _ => .plain rfl trivial rfl
  | box => exact .seq <| .seq <| .seq <| .map fun _ _ _ _ _ _ _ _ => .plain rfl trivial rfl
  | photo => exact .seq <| .seq <| .map fun _ _ _ _ _ _ => .plain rfl trivial rfl
  | newPage => exact .map fun _ _ => .plain rfl trivial rfl
  | textBox => exact .seq <| .seq <| .seq <| .seq <| .map fun _ _ _ _ _ _ _ _ _ _ => .plain rfl trivial rfl
  | multiLines =>
    exact .seq <| .seq <| .seq <| .seq <| .map fun _ _ _ _ _ _ _ counted _ _ => .counted rfl trivial rfl counted
  | polyline =>
    refine .seq <| .seq <| .seq <| .seq <| .map fun _ _ _ counted _ listed _ _ _ _ => .counted rfl ?_ rfl counted
    obtain ⟨_, _, checked⟩ := Entries.exists_of_required listed
    exact ne_nil_of_someList checked
  | yearMonthBox =>
    exact .seq <| .seq <| .seq <| .seq <| .map fun _ _ _ _ _ _ _ counted _ _ => .counted rfl trivial rfl counted
  | miscBox => exact .seq <| .seq <| .seq <| .seq <| .map fun _ _ _ _ _ _ _ _ _ _ => .plain rfl trivial rfl
  | history => exact .seq <| .seq <| .seq <| .map fun _ _ _ _ _ _ _ _ => .plain rfl trivial rfl
  | educationExperience =>
    exact .seq <| .seq <| .seq <| .seq <| .map fun _ _ _ _ _ _ _ _ _ _ => .plain rfl trivial rfl

theorem mem_of_lookup?_entries {named : List (String × Outline)} {n : Int}
    (found : lookup? (.text name) (Outline.entries named) = some (.int n)) : (name, Outline.integer n) ∈ named := by
  induction named with
  | nil => cases found
  | cons entry rest ih =>
    obtain ⟨other, part⟩ := entry
    rw [Outline.entries, lookup?_cons] at found
    split at found
    next same =>
      cases Value.text.inj (sameKey_text.mp same)
      cases part with
      | integer k =>
        cases found
        exact List.mem_cons_self ..
      | _ => cases found
    next => exact List.mem_cons_of_mem _ (ih found)

namespace Model

variable {kind : ModelKind} {m : Model}

/-- A proper thing is built from its own parts. -/
theorem ofEntries_own (proper : m.Proper) :
    ∃ fields, m.outline.value = .map fields ∧ ofEntries m.kind fields = .valid m := by
  cases m with
  | point p => exact ⟨_, rfl, valid_map Model.point (point_again p)⟩
  | size s => exact ⟨_, rfl, valid_map Model.size (size_again s)⟩
  | fontOptions font => exact ⟨_, rfl, valid_map Model.fontOptions (fontOptions_again font)⟩
  | lineOptions options => exact ⟨_, rfl, valid_map Model.lineOptions (lineOptions_again options)⟩
  | command c =>
    exact ⟨_, rfl, valid_map Model.command <|
      valid_seq (valid_map Command.mk (lineNumberIn_again rfl)) (directiveOf_again c.line proper)⟩
  | columns line table =>
    exact ⟨_, rfl, valid_seq (valid_map Model.columns (lineNumberIn_again rfl)) (columnsOf_again rfl rfl rfl rfl rfl)⟩
  | entry e => exact ⟨_, rfl, valid_map Model.entry (entryOf_again proper)⟩
  | record r => exact ⟨_, rfl, valid_map Model.record (recordOf_again proper)⟩

/-- What the entries of a kind of thing come to: a proper thing of that kind, with the integers that they have. -/
structure Built (kind : ModelKind) (entries : Entries) (m : Model) : Prop where
  kind : m.kind = kind
  proper : m.Proper
  given : ∀ named, m.outline = .parts named → ∀ name n, (name, Outline.integer n) ∈ named → Given entries name n

theorem Built.of_parts {named : List (String × Outline)} (same : m.kind = kind) (proper : m.Proper)
    (parted : m.outline = .parts named)
    (given : ∀ name n, (name, Outline.integer n) ∈ named → Given entries name n) : Built kind entries m := by
  refine ⟨same, proper, fun others held => ?_⟩
  cases parted.symm.trans held
  exact given

theorem ofEntries_built (kind : ModelKind) (entries : Entries) :
    (ofEntries kind entries).Finds (Built kind entries) := by
  cases kind with
  | point => exact .map fun p _ => .of_parts rfl trivial rfl fun name n member => by simp at member
  | size => exact .map fun s _ => .of_parts rfl trivial rfl fun name n member => by simp at member
  | fontOptions =>
    refine .map fun font _ => .of_parts rfl trivial rfl fun name n member => ?_
    obtain ⟨size, face⟩ := font
    cases size <;> cases face <;> simp [Outline.ofOption] at member
  | lineOptions =>
    refine .map fun options _ => .of_parts rfl trivial rfl fun name n member => ?_
    obtain ⟨width, style⟩ := options
    cases width <;> cases style <;> simp [Outline.ofOption] at member
  | command keyword =>
    refine .map fun c found => ?_
    obtain ⟨_, d, made, asks, rfl⟩ := seq_eq_valid.mp found
    obtain ⟨line, numbered, rfl⟩ := map_eq_valid.mp made
    have asked := directiveOf_asked keyword entries d asks
    refine .of_parts (congrArg ModelKind.command asked.keyword) asked.proper rfl fun name n member => ?_
    rcases List.mem_cons.mp member with same | rest
    · obtain ⟨rfl, held⟩ := Prod.mk.inj same
      exact given_of_line numbered held
    · -- The keyword comes next, and it is a text.
      rcases List.mem_cons.mp rest with same | own
      · cases same
      · obtain ⟨k, counted, rfl⟩ := count?_of_mem own
        exact asked.given name k counted
  | columns =>
    refine .seq <| .map fun line numbered columns _ => .of_parts rfl trivial rfl fun name n member => ?_
    rcases List.mem_cons.mp member with same | rest
    · obtain ⟨rfl, held⟩ := Prod.mk.inj same
      exact given_of_line numbered held
    · simp [TableColumns.outline] at rest
  | entry =>
    refine .map fun e described => .of_parts rfl (entryOf_month described) rfl fun name n member => ?_
    obtain ⟨_, dated, _⟩ := entryOf_eq_valid.mp described
    rcases List.mem_cons.mp member with same | rest
    · obtain ⟨year, month, value⟩ := e
      cases year <;> cases same
    · rcases List.mem_cons.mp rest with same | last
      · obtain ⟨rfl, held⟩ := Prod.mk.inj same
        exact given_of_nullable (fun _ _ checked => integer_of_between (by decide) checked) dated held
      · cases List.mem_singleton.mp last
  | record =>
    refine .map fun r described => ?_
    obtain ⟨_, _, checked⟩ := Entries.exists_of_required (recordOf_eq_valid.mp described).photo
    have proper : r.Proper := ⟨plain_of_path checked, recordOf_month described⟩
    refine .of_parts rfl proper (congrArg Outline.parts (outline_record r)) fun name n member => ?_
    obtain ⟨field, _, same⟩ := List.mem_map.mp member
    cases field <;> cases same

/-- Whatever is built is built again from its own parts, without a change. Its parts are as they are declared, and
each integer among them is the one that was given for it. -/
theorem ofEntries_again (built : ofEntries kind entries = .valid m) :
    (∃ fields, m.outline.value = .map fields ∧ ofEntries kind fields = .valid m ∧
      ∀ name n, lookup? (.text name) fields = some (.int n) →
        ∃ v, lookup? (.text name) entries = some v ∧ integer v = .valid n) ∧ m.outline.Declared := by
  obtain ⟨same, proper, given⟩ := ofEntries_built kind entries m built
  obtain ⟨fields, parted, again⟩ := ofEntries_own proper
  refine ⟨⟨fields, parted, same ▸ again, fun name n found => ?_⟩, Model.declared proper⟩
  -- An integer in the value is one of the outline, so it was given.
  cases held : m.outline with
  | parts named =>
    rw [held] at parted
    cases parted
    exact given named held name n (mem_of_lookup?_entries found)
  | _ =>
    rw [held] at parted
    cases parted

/-- A polyline with its count as a text, a truth value for a coordinate, and coordinates that are left out. -/
theorem ofEntries_again_polyline :
    let given : Entries := [(.text "stroke_number", .text "2.0"),
      (.text "positions", .list [.map [(.text "x", .bool true)], .map []]),
      (.text "line_options", .map [(.text "line_style", .text "dashed")]), (.text "close", .text "OFF")]
    let m : Model := .command ⟨none, .polyline 2 [⟨1.0, 0.0⟩, ⟨0.0, 0.0⟩] ⟨none, some .dashed⟩ (some false)⟩
    ofEntries (.command .polyline) given = .valid m ∧
      (∃ fields, m.outline.value = .map fields ∧ ofEntries (.command .polyline) fields = .valid m) ∧
      m.outline.Declared := by
  intro given m
  have built : ofEntries (.command .polyline) given = .valid m := rfl
  obtain ⟨⟨fields, parted, again, _⟩, declared⟩ := ofEntries_again built
  exact ⟨built, ⟨fields, parted, again⟩, declared⟩

end Model

end Schema

end Rirekisho
