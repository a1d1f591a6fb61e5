import Rirekisho.DataFile
import Rirekisho.Proofs.Outcome
import Rirekisho.Proofs.Schema.Record
import Rirekisho.Proofs.Yaml.Digits
import Rirekisho.Proofs.Yaml.Tree

namespace Rirekisho

namespace DataFile

theorem hasTextKey_iff {key v : Value} : hasTextKey (key, v) = true ↔ ∃ s, key = .text s := by
  unfold hasTextKey
  split
  next same =>
    cases same
    exact ⟨fun _ => ⟨_, rfl⟩, fun _ => rfl⟩
  next other => exact ⟨nofun, fun ⟨s, same⟩ => (other s v (congrArg (·, v) same)).elim⟩

theorem hasTextKey_of_sameKey {k key : Value} (same : k.sameKey key = true) (v w : Value) :
    hasTextKey (k, v) = hasTextKey (key, w) := by
  rw [Bool.eq_iff_iff, hasTextKey_iff, hasTextKey_iff]
  refine exists_congr fun s => ?_
  rw [← Value.sameKey_text, ← Value.sameKey_text, Value.sameKey_text_congr same]

theorem all_hasTextKey_insert (key v : Value) (entries : Entries) :
    (Value.insert key v entries).all hasTextKey =
      (hasTextKey (key, v) && entries.all hasTextKey) := by
  induction entries with
  | nil => rfl
  | cons entry rest ih =>
    obtain ⟨k, w⟩ := entry
    rw [Value.insert]
    cases same : k.sameKey key with
    | true =>
      simp only [if_true, List.all_cons, hasTextKey_of_sameKey same _ v]
      cases hasTextKey (key, v) <;> rfl
    | false =>
      simp only [Bool.false_eq_true, if_false, List.all_cons, ih, Bool.and_left_comm]

theorem all_hasTextKey_insertAll (entries added : Entries) :
    (Value.insertAll entries added).all hasTextKey =
      (entries.all hasTextKey && added.all hasTextKey) := by
  induction added generalizing entries with
  | nil => simp [Value.insertAll]
  | cons entry rest ih =>
    obtain ⟨key, v⟩ := entry
    rw [Value.insertAll_cons, ih, all_hasTextKey_insert, List.all_cons]
    cases entries.all hasTextKey <;> cases hasTextKey (key, v) <;> rfl

/-- Whether all keys are texts does not depend on a value. -/
theorem all_hasTextKey_fill {label : String} (place : Value.Place label) (v w : Value) :
    (place.fill v).all hasTextKey = (place.fill w).all hasTextKey := by
  simp only [Value.Place.fill, all_hasTextKey_insertAll, List.all_append, List.all_cons, hasTextKey]

end DataFile

theorem Schema.Gap.all_hasTextKey {place : TextPlace} (gap : Schema.Gap place) (v w : Value) :
    (gap.fill v).all DataFile.hasTextKey = (gap.fill w).all DataFile.hasTextKey := by
  cases gap with
  | field outer => exact DataFile.all_hasTextKey_fill outer v w
  | entry outer before counted inner after => exact DataFile.all_hasTextKey_fill outer _ _

namespace Yaml

/-- The tree of a data file around a place for a text: a field of the mapping, or a part of a mapping in one of
its lists. -/
inductive Frame (anchors : Anchors) : TextPlace → Type
  | field {field : TextField} (slot : Slot anchors 1 (Schema.RecordField.text field).label) :
      Frame anchors (.field field)
  | entry {list : ListField} {part : EntryPart} (slot : Slot anchors 1 (Schema.RecordField.entries list).label)
      (before : List Node) (inner : Slot anchors 3 part.label) (after : List Node) :
      Frame anchors (.entry list before.length part)

namespace Frame

variable {anchors : Anchors} {place : TextPlace} {y : Node} {w : Value}

/-- The tree with a node in the place. -/
def fill (frame : Frame anchors place) (x : Node) : Node :=
  match frame with
  | .field slot => slot.fill x
  | .entry slot before inner after => slot.fill (.list .list (before ++ inner.fill x :: after))

/-- What a tree stands for, in dependence on the node in the place. -/
theorem value_fill (frame : Frame anchors place) (filled : (frame.fill y).value anchors 0 = .ok w) :
    ∃ gap : Schema.Gap place, ∀ x v, (∀ depth, x.value anchors depth = .ok v) →
      (frame.fill x).value anchors 0 = .ok (.map (gap.fill v)) := by
  cases frame with
  | field slot =>
    obtain ⟨outer, _, fills⟩ := slot.value_fill filled
    exact ⟨.field outer, fun x v stands => fills x v (stands 1)⟩
  | entry slot before inner after =>
    obtain ⟨outer, ⟨_, listed⟩, fills⟩ := slot.value_fill filled
    obtain ⟨_, valued, rfl⟩ := Node.value_list.mp listed
    obtain ⟨first, _, here, there, rfl⟩ := Node.values_append.mp valued
    obtain ⟨row, last, filled, later, rfl⟩ := Built.both_eq_ok.mp there
    obtain ⟨own, _, fillsRow⟩ := inner.value_fill filled
    refine ⟨.entry outer first (Node.values_length here) own last, fun x v stands => fills _ _ ?_⟩
    have rows : Node.values anchors 2 (inner.fill x :: after) = .ok (.map (own.fill v) :: last) :=
      Built.both_eq_ok.mpr ⟨_, _, fillsRow x v (stands 3), later, rfl⟩
    exact Node.value_list.mpr ⟨_, Node.values_append.mpr ⟨first, _, here, rows, rfl⟩, rfl⟩

end Frame

end Yaml

namespace DataFile

open Yaml

variable {disk : Disk} {path : Path} {content : Content} {anchors : Anchors} {place : TextPlace} {text : String}
  {value : Value} {record : Record}

theorem load_of_tree {node : Node} (read : disk.read path = .ok content)
    (tree : Reading.composed (Token.ofSource (.ofContent content)) = .ok (node, anchors))
    (stands : node.value anchors 0 = .ok value) : load disk path = recordOf path value := by
  have valued : Reading.valued (node, anchors) = .ok value := by rw [Reading.valued, stands]
  have parsed : Yaml.read (.ofContent content) = .ok value := by
    rw [Yaml.read, Reading.document_eq, tree]
    exact valued
  have opened : source disk path = .ok (.ofContent content) := by rw [source, read]
  have found : DataFile.value path (.ofContent content) = .ok value := by rw [DataFile.value, parsed]
  rw [load, opened]
  exact congrArg (· >>= recordOf path) found

/-- In place of another text, a value that says a text gives the record with this text. -/
theorem recordOf_gap {gap : Schema.Gap place} {v w : Value}
    (described : recordOf path (.map (gap.fill w)) = .ok record) (written : Schema.looseText v = .valid text) :
    recordOf path (.map (gap.fill v)) = .ok (record.put place text) ∧
      (record.put place text).text? place = some text := by
  unfold recordOf at described ⊢
  dsimp only at described ⊢
  rw [gap.all_hasTextKey v w]
  split at described
  next keys =>
    cases checked : Schema.recordOf (gap.fill w) with
    | valid found =>
      rw [checked] at described
      cases described
      obtain ⟨built, kept⟩ := Schema.recordOf_gap gap checked written
      rw [if_pos keys, built]
      exact ⟨rfl, kept⟩
    | invalid problems =>
      rw [checked] at described
      cases described
    | stopped failure =>
      rw [checked] at described
      cases described
  next => cases described

/-- A plain word of digits in the place of a text: if there is a record with some text in this place, there is
one with the word too, and in the place is the text that the word comes to. -/
theorem load_digits {frame : Frame anchors place} {word other : List Char} (read : disk.read path = .ok content)
    (tree : Reading.composed (Token.ofSource (.ofContent content)) =
      .ok (frame.fill (.scalar (.ofPlain word) word), anchors))
    (digits : IsDigits word) (spelt : Spelt word text)
    (filled : (frame.fill (.scalar .text other)).value anchors 0 = .ok value)
    (described : recordOf path value = .ok record) :
    load disk path = .ok (record.put place text) ∧ (record.put place text).text? place = some text := by
  obtain ⟨v, stands, written⟩ := value_digits digits spelt
  obtain ⟨gap, fills⟩ := frame.value_fill filled
  have otherwise := fills (.scalar .text other) (.text (String.ofList other)) fun depth => rfl
  rw [filled] at otherwise
  cases otherwise
  rw [load_of_tree read tree (fills _ v (stands anchors))]
  exact recordOf_gap described written

/-- The fields but the telephone number: their names, notation, tokens and nodes. -/
def blanks : List (String × String × List Token × Node) :=
  (TextField.all.filter (· ≠ .tel)).map (fun field => (field.label, "''", [.scalar [] false], .scalar .text [])) ++
    ("photo", "p", [.scalar ['p'] true], .scalar .text ['p']) ::
      ListField.all.map fun field => (field.label, "[]", [.flowListStart, .flowListEnd], .list .list [])

/-- The text of the file. -/
def blankText (word : String) : List Char :=
  blanks.flatMap (fun (label, written, _) => label.toList ++ ": ".toList ++ written.toList ++ ['\n']) ++
    "tel: ".toList ++ word.toList ++ ['\n']

/-- The tokens of the file. -/
def blankTokens (word : String) : List Token :=
  .blockMapStart ::
    blanks.flatMap (fun (label, _, value, _) => .key :: .scalar label.toList true :: .value :: value) ++
    [.key, .scalar "tel".toList true, .value, .scalar word.toList true, .blockEnd, .streamEnd]

/-- The tree of the file around the telephone number. -/
def blankFrame : Frame [] (.field .tel) := .field {
  before := blanks.map fun (label, _, _, node) => (.scalar .text label.toList, node)
  key := .scalar .text "tel".toList
  after := []
  named := ⟨by decide, rfl, rfl⟩
  last := List.forall_mem_nil _ }

/-- A disk with the file alone. -/
def blankDisk (word : String) : Disk :=
  ⟨[], [(["data.yaml"], .file (.bytes (String.ofList (blankText word)).toUTF8))], []⟩

/-- The path of the file. -/
def blankPath : Path := ⟨.here, ["data.yaml"]⟩

theorem read_blankDisk (word : String) :
    (blankDisk word).read blankPath = .ok (.bytes (String.ofList (blankText word)).toUTF8) := rfl

set_option maxRecDepth 100000 in
theorem blankText_lexed : ∀ word ∈ ["0790", "010"],
    Token.ofSource (Source.visible { text := Text.unifyNewlines (blankText word) }) = blankTokens word := by
  decide +kernel

set_option maxRecDepth 100000 in
theorem blankTokens_composed (word : String) : Reading.composed (blankTokens word) =
    .ok (blankFrame.fill (.scalar (.ofPlain word.toList) word.toList), []) := by rfl

theorem blankText_tree {word : String} (member : word ∈ ["0790", "010"]) :
    Reading.composed (Token.ofSource (.ofContent (.bytes (String.ofList (blankText word)).toUTF8))) =
      .ok (blankFrame.fill (.scalar (.ofPlain word.toList) word.toList), []) := by
  rw [Source.ofContent_toUTF8, String.toList_ofList, blankText_lexed word member, blankTokens_composed]

/-- A telephone number of four digits. -/
theorem load_digits_tel :
    Reading.composed (Token.ofSource (.ofContent (.bytes (String.ofList (blankText "0790")).toUTF8))) =
        .ok (blankFrame.fill (.scalar (.ofPlain "0790".toList) "0790".toList), []) ∧
      ∃ record, load (blankDisk "0790") blankPath = .ok record ∧ record.text? (.field .tel) = some "0790" := by
  have tree := blankText_tree (show "0790" ∈ ["0790", "010"] by decide)
  have blank : ((blankFrame.fill (.scalar .text [])).value [] 0).toOption.any
      fun value => (recordOf blankPath value).toOption.any fun _ => true := by decide +kernel
  obtain ⟨value, filled, described⟩ := exists_ok_of_any blank
  obtain ⟨record, described, _⟩ := exists_ok_of_any described
  have digits : IsDigits "0790".toList := ⟨by decide, List.all_eq_true.mp (by decide)⟩
  have spelt : Spelt "0790".toList (String.ofList "0790".toList) := .itself rfl (Or.inl rfl)
  obtain ⟨loaded, kept⟩ := load_digits (read_blankDisk "0790") tree digits spelt filled described
  exact ⟨tree, _, loaded, kept⟩

/-- A telephone number that is taken for a number in octal. -/
theorem load_octal :
    Reading.composed (Token.ofSource (.ofContent (.bytes (String.ofList (blankText "010")).toUTF8))) =
        .ok (blankFrame.fill (.scalar (.ofPlain "010".toList) "010".toList), []) ∧
      ∃ record, load (blankDisk "010") blankPath = .ok record ∧ record.text? (.field .tel) = some "8" := by
  have tree := blankText_tree (show "010" ∈ ["0790", "010"] by decide)
  have stands : ((blankFrame.fill (.scalar (.ofPlain "010".toList) "010".toList)).value [] 0).toOption.any
      fun value => (recordOf blankPath value).toOption.any (·.text .tel == "8") := by decide +kernel
  obtain ⟨value, filled, described⟩ := exists_ok_of_any stands
  obtain ⟨record, described, eight⟩ := exists_ok_of_any described
  refine ⟨tree, record, (load_of_tree (read_blankDisk "010") tree filled).trans described, ?_⟩
  exact congrArg some (eq_of_beq eight)

end DataFile

end Rirekisho
