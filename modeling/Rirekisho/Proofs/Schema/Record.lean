import Rirekisho.Proofs.Value.Lookup
import Rirekisho.Schema.Model

namespace Rirekisho

variable {β γ : Type}

namespace Checked

theorem map_eq_valid {f : β → γ} {check : Checked β} {y : γ} :
    f <$> check = .valid y ↔ ∃ x, check = .valid x ∧ f x = y := by
  cases check with
  | valid x => exact ⟨fun same => ⟨x, rfl, Checked.valid.inj same⟩, by rintro ⟨_, ⟨⟩, rfl⟩; rfl⟩
  | invalid problems => exact ⟨nofun, nofun⟩
  | stopped failure => exact ⟨nofun, nofun⟩

theorem seq_eq_valid {f : Checked (β → γ)} {check : Checked β} {y : γ} :
    f <*> check = .valid y ↔ ∃ g x, f = .valid g ∧ check = .valid x ∧ g x = y := by
  cases f with
  | stopped failure => exact ⟨nofun, nofun⟩
  | valid g =>
    cases check with
    | valid x => exact ⟨fun same => ⟨g, x, rfl, rfl, Checked.valid.inj same⟩, by rintro ⟨_, _, ⟨⟩, ⟨⟩, rfl⟩; rfl⟩
    | _ => exact ⟨nofun, nofun⟩
  | invalid problems =>
    cases check with
    | _ => exact ⟨nofun, nofun⟩

theorem also_eq_valid {check : Checked β} {further : β → Checked γ} {y : γ} :
    check.also further = .valid y ↔ ∃ x, check = .valid x ∧ further x = .valid y := by
  cases check with
  | valid x => exact ⟨fun same => ⟨x, rfl, same⟩, by rintro ⟨_, ⟨⟩, same⟩; exact same⟩
  | invalid problems => exact ⟨nofun, nofun⟩
  | stopped failure => exact ⟨nofun, nofun⟩

theorem value?_getD_of_valid {check : Checked β} {x : β} (otherwise : β) (found : check = .valid x) :
    check.value?.getD otherwise = x := by rw [found]; rfl

theorem within_eq_valid {name : String} {check : Checked β} {x : β} :
    check.within name = .valid x ↔ check = .valid x := by
  cases check with
  | valid y => exact Iff.rfl
  | _ => exact ⟨nofun, nofun⟩

theorem all_eq_valid {checks : List (Checked Unit)} :
    Checked.all checks = .valid () ↔ ∀ check ∈ checks, check = .valid () := by
  induction checks with
  | nil => exact ⟨fun _ => List.forall_mem_nil _, fun _ => rfl⟩
  | cons check rest ih =>
    rw [List.forall_mem_cons, ← ih, Checked.all, seq_eq_valid]
    constructor
    · rintro ⟨_, _, first, later, _⟩
      obtain ⟨_, first, _⟩ := map_eq_valid.mp first
      exact ⟨first, later⟩
    · rintro ⟨first, later⟩
      exact ⟨_, (), map_eq_valid.mpr ⟨(), first, rfl⟩, later, rfl⟩

end Checked

section
variable {entries other : Entries} {name : String} {check : Value → Checked β} {v : Value} {x : β}

theorem Entries.required_eq_valid (found : Value.lookup? (.text name) entries = some v) :
    entries.required name check = .valid x ↔ check v = .valid x := by
  rw [required, found]
  exact Checked.within_eq_valid

theorem Entries.optional_eq_valid {otherwise : β} (found : Value.lookup? (.text name) entries = some v) :
    entries.optional name otherwise check = .valid x ↔ check v = .valid x := by
  rw [optional, found]
  exact Checked.within_eq_valid

theorem Entries.exists_of_required (checked : entries.required name check = .valid x) :
    ∃ v, Value.lookup? (.text name) entries = some v ∧ check v = .valid x := by
  unfold required at checked
  split at checked
  next v found => exact ⟨v, found, Checked.within_eq_valid.mp checked⟩
  next => cases checked

theorem Entries.required_congr (same : Value.lookup? (.text name) entries = Value.lookup? (.text name) other) :
    entries.required name check = other.required name check := by rw [required, required, same]

theorem Entries.optional_congr {otherwise : β}
    (same : Value.lookup? (.text name) entries = Value.lookup? (.text name) other) :
    entries.optional name otherwise check = other.optional name otherwise check := by rw [optional, optional, same]

end

namespace Schema

/-- A part that is not null has a value. -/
theorem exists_of_nullable {entries : Entries} {name : String} {check : Value → Checked β} {x : β}
    (checked : entries.optional name none (nullable check) = .valid (some x)) :
    ∃ v, Value.lookup? (.text name) entries = some v ∧ check v = .valid x := by
  unfold Entries.optional at checked
  split at checked
  next v found =>
    have own := Checked.within_eq_valid.mp checked
    unfold nullable at own
    split at own
    next => cases own
    next =>
      obtain ⟨_, valid, same⟩ := Checked.map_eq_valid.mp own
      cases same
      exact ⟨v, found, valid⟩
  next => cases checked

theorem each_cons_eq_valid {check : Value → Checked β} {number : Nat} {v : Value} {rest : List Value} {xs : List β} :
    each check number (v :: rest) = .valid xs ↔
      ∃ x later, check v = .valid x ∧ each check (number + 1) rest = .valid later ∧ xs = x :: later := by
  rw [each, Checked.seq_eq_valid]
  constructor
  · rintro ⟨_, later, built, others, rfl⟩
    obtain ⟨x, first, rfl⟩ := Checked.map_eq_valid.mp built
    exact ⟨x, later, Checked.within_eq_valid.mp first, others, rfl⟩
  · rintro ⟨x, later, first, others, rfl⟩
    exact ⟨_, later, Checked.map_eq_valid.mpr ⟨x, Checked.within_eq_valid.mpr first, rfl⟩, others, rfl⟩

/-- One of several values in another form: what it comes to is in the same place. -/
theorem each_modify {check : Value → Checked β} {f : β → β} {v w : Value} {before after : List Value} {number : Nat}
    {xs : List β} (checked : each check number (before ++ w :: after) = .valid xs)
    (changed : ∀ x, check w = .valid x → check v = .valid (f x)) :
    each check number (before ++ v :: after) = .valid (xs.modify before.length f) ∧
      ∃ x, xs[before.length]? = some x := by
  induction before generalizing number xs with
  | nil =>
    obtain ⟨x, later, first, others, rfl⟩ := each_cons_eq_valid.mp checked
    exact ⟨each_cons_eq_valid.mpr ⟨_, _, changed x first, others, rfl⟩, x, rfl⟩
  | cons u rest ih =>
    obtain ⟨x, later, first, others, rfl⟩ := each_cons_eq_valid.mp checked
    obtain ⟨modified, found⟩ := ih others
    exact ⟨each_cons_eq_valid.mpr ⟨_, _, first, modified, rfl⟩, found⟩

/-- The entries describe the record, each field by itself. -/
structure Describes (entries : Entries) (record : Record) : Prop where
  text (field : TextField) : entries.required field.label looseText = .valid (record.text field)
  photo : entries.required "photo" path = .valid record.photo
  list (field : ListField) :
    entries.required field.label (list (entriesOf "Entry" entryOf)) = .valid (record.entries field)

/-- The name of a field in the data file. -/
def RecordField.label : RecordField → String
  | .text field => field.label
  | .photo => "photo"
  | .entries field => field.label

/-- No two fields have the same name. -/
theorem RecordField.label_injective : Function.Injective RecordField.label := by
  let find? (s : String) : Option RecordField :=
    ((TextField.ofLabel? s).map RecordField.text).or
      (((ListField.ofLabel? s).map RecordField.entries).or (if s = "photo" then some .photo else none))
  have found (field : RecordField) : find? field.label = some field := by
    cases field with
    | text field => cases field <;> rfl
    | photo => rfl
    | entries field => cases field <;> rfl
  intro first second same
  exact Option.some.inj ((found first).symm.trans ((congrArg find? same).trans (found second)))

theorem RecordField.text_mem_all (field : TextField) : RecordField.text field ∈ RecordField.all := by
  cases field <;> simp [RecordField.all, TextField.all]

theorem RecordField.entries_mem_all (field : ListField) : RecordField.entries field ∈ RecordField.all := by
  cases field <;> simp [RecordField.all, ListField.all]

theorem recordOf_eq_valid {entries : Entries} {record : Record} :
    recordOf entries = .valid record ↔ Describes entries record := by
  unfold recordOf
  dsimp only
  rw [show ∀ (f : Path → Record) (check : Checked Path), check.map f = f <$> check from fun _ _ => rfl,
    Checked.map_eq_valid]
  constructor
  · rintro ⟨photo, checked, rfl⟩
    obtain ⟨_, all, photographed⟩ := Checked.also_eq_valid.mp checked
    have each := Checked.all_eq_valid.mp all
    refine ⟨fun field => ?_, photographed, fun field => ?_⟩
    · have part := each _ (List.mem_map_of_mem (RecordField.text_mem_all field))
      obtain ⟨x, found, _⟩ := Checked.map_eq_valid.mp part
      exact found.trans (congrArg Checked.valid (Checked.value?_getD_of_valid _ found).symm)
    · have part := each _ (List.mem_map_of_mem (RecordField.entries_mem_all field))
      obtain ⟨x, found, _⟩ := Checked.map_eq_valid.mp part
      exact found.trans (congrArg Checked.valid (Checked.value?_getD_of_valid _ found).symm)
  · intro describes
    refine ⟨record.photo, Checked.also_eq_valid.mpr ⟨(), Checked.all_eq_valid.mpr ?_, describes.photo⟩, ?_⟩
    · intro check member
      obtain ⟨field, _, rfl⟩ := List.mem_map.mp member
      cases field with
      | text field => exact Checked.map_eq_valid.mpr ⟨_, describes.text field, rfl⟩
      | photo => exact Checked.map_eq_valid.mpr ⟨_, describes.photo, rfl⟩
      | entries field => exact Checked.map_eq_valid.mpr ⟨_, describes.list field, rfl⟩
    · have texts := funext fun field => Checked.value?_getD_of_valid "" (describes.text field)
      have lists := funext fun field => Checked.value?_getD_of_valid [] (describes.list field)
      rw [texts, lists]

theorem entryOf_eq_valid {entries : Entries} {entry : Entry} : entryOf entries = .valid entry ↔
    entries.optional "year" none (nullable looseText) = .valid entry.year ∧
      entries.optional "month" none (nullable month) = .valid entry.month ∧
      entries.required "value" looseText = .valid entry.value := by
  rw [entryOf, Checked.seq_eq_valid]
  constructor
  · rintro ⟨_, value, built, valued, rfl⟩
    obtain ⟨_, month, begun, dated, rfl⟩ := Checked.seq_eq_valid.mp built
    obtain ⟨year, found, rfl⟩ := Checked.map_eq_valid.mp begun
    exact ⟨found, dated, valued⟩
  · rintro ⟨found, dated, valued⟩
    exact ⟨_, _, Checked.seq_eq_valid.mpr ⟨_, _, Checked.map_eq_valid.mpr ⟨_, found, rfl⟩, dated, rfl⟩, valued, rfl⟩

theorem each_forall {check : Value → Checked β} {good : β → Prop}
    (each_good : ∀ v x, check v = .valid x → good x) {number : Nat} {vs : List Value} {xs : List β}
    (checked : each check number vs = .valid xs) : ∀ x ∈ xs, good x := by
  induction vs generalizing number xs with
  | nil =>
    cases checked
    exact List.forall_mem_nil _
  | cons v rest ih =>
    obtain ⟨x, later, first, others, rfl⟩ := each_cons_eq_valid.mp checked
    exact List.forall_mem_cons.mpr ⟨each_good v x first, ih others⟩

theorem between_eq_valid {low n : Int} {high : Option Int} {k : Nat} :
    between low high n = .valid k ↔ low ≤ n ∧ (∀ h ∈ high, n ≤ h) ∧ n.toNat = k := by
  unfold between
  cases high with
  | none =>
    dsimp only
    split
    next below => exact ⟨nofun, fun held => absurd held.1 (Int.not_le.mpr below)⟩
    next within =>
      exact ⟨fun same => ⟨Int.not_lt.mp within, nofun, Checked.valid.inj same⟩, fun held => held.2.2 ▸ rfl⟩
  | some h =>
    dsimp only
    split
    next above => exact ⟨nofun, fun held => absurd (held.2.1 h rfl) (Int.not_le.mpr above)⟩
    next within =>
      split
      next below => exact ⟨nofun, fun held => absurd held.1 (Int.not_le.mpr below)⟩
      next reaches =>
        refine ⟨fun same => ⟨Int.not_lt.mp reaches, ?_, Checked.valid.inj same⟩, fun held => held.2.2 ▸ rfl⟩
        rintro _ ⟨⟩
        exact Int.not_lt.mp within

theorem of_month_eq_valid {v : Value} {m : Nat} (checked : month v = .valid m) : 1 ≤ m ∧ m ≤ 12 := by
  obtain ⟨n, _, bounded⟩ := Checked.also_eq_valid.mp checked
  obtain ⟨low, high, same⟩ := between_eq_valid.mp bounded
  have most := high 12 rfl
  omega

theorem entryOf_month {entries : Entries} {entry : Entry} (described : entryOf entries = .valid entry) :
    ∀ m ∈ entry.month, 1 ≤ m ∧ m ≤ 12 := by
  intro m dated
  obtain ⟨_, checked, _⟩ := entryOf_eq_valid.mp described
  rw [dated] at checked
  obtain ⟨v, _, found⟩ := exists_of_nullable checked
  exact of_month_eq_valid found

/-- The months of a record are numbers of months. -/
theorem recordOf_month {entries : Entries} {record : Record} (described : recordOf entries = .valid record)
    (field : ListField) : ∀ entry ∈ record.entries field, ∀ m ∈ entry.month, 1 ≤ m ∧ m ≤ 12 := by
  obtain ⟨v, _, checked⟩ := Entries.exists_of_required ((recordOf_eq_valid.mp described).list field)
  unfold list at checked
  split at checked
  · refine each_forall (fun v entry found => ?_) checked
    cases v with
    | map entries => exact entryOf_month found
    | _ => cases found
  · cases checked

end Schema

/-- A part of an entry that is a text. -/
inductive EntryPart where
  | year
  | value

/-- The name of a part in the data file. -/
def EntryPart.label : EntryPart → String
  | .year => "year"
  | .value => "value"

/-- The text of a part, if there is one. -/
def Entry.text? (entry : Entry) : EntryPart → Option String
  | .year => entry.year
  | .value => some entry.value

/-- The entry with another text in a part. -/
def Entry.put (part : EntryPart) (text : String) (entry : Entry) : Entry :=
  match part with
  | .year => { entry with year := some text }
  | .value => { entry with value := text }

/-- A place for text in a record: a field, or a part of the entry of a list with the given number. -/
inductive TextPlace where
  | field (field : TextField)
  | entry (list : ListField) (number : Nat) (part : EntryPart)

namespace Record

/-- The text in a place, if there is one. -/
def text? (record : Record) : TextPlace → Option String
  | .field field => some (record.text field)
  | .entry list number part => (record.entries list)[number]?.bind (·.text? part)

/-- The record with another text in a place. -/
def put (place : TextPlace) (text : String) (record : Record) : Record :=
  match place with
  | .field field => { record with text := fun other => if other = field then text else record.text other }
  | .entry list number part =>
    { record with entries := fun other =>
        if other = list then (record.entries list).modify number (Entry.put part text) else record.entries other }

end Record

namespace Schema

variable {v w : Value} {text : String} {record : Record}

theorem required_beside {own other : RecordField} (place : Value.Place own.label) (apart : other ≠ own)
    (check : Value → Checked β) :
    (place.fill v).required other.label check = (place.fill w).required other.label check :=
  Entries.required_congr (place.lookup?_fill_of_ne (RecordField.label_injective.ne apart) v w)

theorem describes_text {field : TextField} {place : Value.Place (RecordField.text field).label}
    (described : Describes (place.fill w) record) (written : looseText v = .valid text) :
    Describes (place.fill v) (record.put (.field field) text) where
  text other := by
    by_cases same : other = field
    · subst same
      exact (Entries.required_eq_valid (place.lookup?_fill v)).mpr (written.trans (congrArg _ (if_pos rfl).symm))
    · have apart : RecordField.text other ≠ .text field := fun named => same (by cases named; rfl)
      exact (required_beside place apart _).trans
        ((described.text other).trans (congrArg Checked.valid (if_neg same).symm))
  photo := (required_beside place (show RecordField.photo ≠ _ from nofun) _).trans described.photo
  list other := (required_beside place (show RecordField.entries other ≠ _ from nofun) _).trans (described.list other)

theorem describes_list {list : ListField} {place : Value.Place (RecordField.entries list).label}
    {rows : List Entry} (described : Describes (place.fill w) record)
    (written : Schema.list (entriesOf "Entry" entryOf) v = .valid rows) :
    Describes (place.fill v)
      { record with entries := fun other => if other = list then rows else record.entries other } where
  text other := (required_beside place (show RecordField.text other ≠ _ from nofun) _).trans (described.text other)
  photo := (required_beside place (show RecordField.photo ≠ _ from nofun) _).trans described.photo
  list other := by
    by_cases same : other = list
    · subst same
      exact (Entries.required_eq_valid (place.lookup?_fill v)).mpr (written.trans (congrArg _ (if_pos rfl).symm))
    · have apart : RecordField.entries other ≠ .entries list := fun named => same (by cases named; rfl)
      exact (required_beside place apart _).trans
        ((described.list other).trans (congrArg Checked.valid (if_neg same).symm))

theorem nullable_looseText (written : looseText v = .valid text) : nullable looseText v = .valid (some text) := by
  cases v with
  | null => cases written
  | _ => exact Checked.map_eq_valid.mpr ⟨text, written, rfl⟩

theorem entryOf_put {part : EntryPart} {place : Value.Place part.label} {entry : Entry}
    (described : entryOf (place.fill w) = .valid entry) (written : looseText v = .valid text) :
    entryOf (place.fill v) = .valid (entry.put part text) := by
  obtain ⟨year, month, value⟩ := entryOf_eq_valid.mp described
  have found := place.lookup?_fill v
  cases part with
  | year =>
    refine entryOf_eq_valid.mpr ⟨(Entries.optional_eq_valid found).mpr (nullable_looseText written), ?_, ?_⟩
    · rwa [Entries.optional_congr (place.lookup?_fill_of_ne (by decide) v w)]
    · rwa [Entries.required_congr (place.lookup?_fill_of_ne (by decide) v w)]
  | value =>
    refine entryOf_eq_valid.mpr ⟨?_, ?_, (Entries.required_eq_valid found).mpr written⟩
    · rwa [Entries.optional_congr (place.lookup?_fill_of_ne (by decide) v w)]
    · rwa [Entries.optional_congr (place.lookup?_fill_of_ne (by decide) v w)]

/-- Entries of a record with a place for the value of a text. -/
inductive Gap : TextPlace → Type
  | field {field : TextField} (place : Value.Place (RecordField.text field).label) : Gap (.field field)
  | entry {list : ListField} {number : Nat} {part : EntryPart} (place : Value.Place (RecordField.entries list).label)
      (before : List Value) (counted : before.length = number) (inner : Value.Place part.label)
      (after : List Value) : Gap (.entry list number part)

/-- The entries with a value in the place. -/
def Gap.fill {place : TextPlace} (gap : Gap place) (v : Value) : Entries :=
  match gap with
  | .field outer => outer.fill v
  | .entry outer before _ inner after => outer.fill (.list (before ++ .map (inner.fill v) :: after))

/-- The record follows the text that stands in the place, and nothing else of it changes. -/
theorem recordOf_gap {place : TextPlace} (gap : Gap place) (described : recordOf (gap.fill w) = .valid record)
    (written : looseText v = .valid text) :
    recordOf (gap.fill v) = .valid (record.put place text) ∧ (record.put place text).text? place = some text := by
  have describes := recordOf_eq_valid.mp described
  cases gap with
  | field outer =>
    refine ⟨recordOf_eq_valid.mpr (describes_text describes written), ?_⟩
    exact congrArg some (if_pos rfl)
  | @entry list number part outer before counted inner after =>
    subst counted
    have checked := (Entries.required_eq_valid (outer.lookup?_fill _)).mp (describes.list list)
    obtain ⟨modified, entry, found⟩ := each_modify (v := .map (inner.fill v)) (f := Entry.put part text) checked
      fun entry own => entryOf_put own written
    refine ⟨recordOf_eq_valid.mpr (describes_list describes modified), ?_⟩
    have put : ((record.entries list).modify before.length (Entry.put part text))[before.length]? =
        some (entry.put part text) := by
      rw [List.getElem?_modify_eq, found]
      rfl
    have chosen : (record.put (.entry list before.length part) text).entries list =
        (record.entries list).modify before.length (Entry.put part text) := if_pos rfl
    rw [Record.text?, chosen, put]
    cases part <;> rfl

end Schema

end Rirekisho
