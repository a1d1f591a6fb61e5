import Rirekisho.Proofs.Yaml.Token
import Rirekisho.Yaml.Node

namespace Rirekisho.Yaml

variable {β γ δ : Type}

theorem inBase_scans (mark : Char) (base : Nat) (text : List Char) : Scans (inBase mark base text) := by
  unfold inBase
  dsimp only
  cases natInBase? base _ <;> trivial

theorem decimalInteger_scans (text : List Char) : Scans (decimalInteger text) := by
  unfold decimalInteger
  split <;> trivial

theorem mapM_scans {ι : Type} {f : ι → Except Failure β} (each : ∀ x, Scans (f x)) (xs : List ι) :
    Scans (xs.mapM f) := by
  induction xs with
  | nil => trivial
  | cons x xs ih =>
    rw [List.mapM_cons]
    exact (each x).bind fun _ _ => ih.bind fun _ _ => trivial

theorem unsignedInteger_scans (text : List Char) : Scans (unsignedInteger text) := by
  unfold unsignedInteger
  split
  · trivial
  · trivial
  · exact inBase_scans _ _ _
  · exact inBase_scans _ _ _
  · exact inBase_scans _ _ _
  · split
    · exact (mapM_scans decimalInteger_scans _).bind fun _ _ => trivial
    · exact decimalInteger_scans _

theorem integerOf_scans (text : List Char) : Scans (integerOf text) := by
  unfold integerOf
  dsimp only
  split
  · trivial
  · exact (unsignedInteger_scans _).bind fun _ _ => trivial

theorem decimalNumber_scans (text : List Char) : Scans (decimalNumber text) := by
  unfold decimalNumber
  split <;> trivial

theorem sixtiethsOfFloat_scans (base : Nat) (sum : Float) (parts : List Float) :
    Scans (sixtiethsOfFloat base sum parts) := by
  induction parts generalizing base sum with
  | nil => trivial
  | cons part rest ih =>
    unfold sixtiethsOfFloat
    exact .ite _ trivial (ih _ _)

theorem numberOf_scans (text : List Char) : Scans (numberOf text) := by
  unfold numberOf
  have signed (negative : Bool) (x : Float) :
      Scans (β := Float) (pure ((if negative then -1.0 else 1.0) * x)) := trivial
  dsimp only
  split
  · trivial
  · split
    · trivial
    · split
      · trivial
      · split
        · exact (mapM_scans decimalNumber_scans _).bind fun _ _ =>
            (sixtiethsOfFloat_scans _ _ _).bind fun _ _ => signed _ _
        · exact (decimalNumber_scans _).bind fun _ _ => signed _ _

theorem truthOf_scans (text : List Char) : Scans (truthOf text) := by
  unfold truthOf
  exact .ite _ trivial (.ite _ trivial trivial)

theorem timeOf_scans (text : List Char) : Scans (timeOf text) := by
  unfold timeOf
  split
  · trivial
  · split <;> trivial

namespace Node

theorem binaryOf_scans (text : List Char) : Scans (binaryOf text) := by
  unfold binaryOf
  split
  · split <;> trivial
  · trivial

theorem simpleValue_scans (tag : Tag) (text : List Char) : Scans (simpleValue tag text) := by
  cases tag with
  | truth => exact (truthOf_scans text).map fun _ _ => trivial
  | integer => exact (integerOf_scans text).map fun _ _ => trivial
  | number => exact (numberOf_scans text).map fun _ _ => trivial
  | binary => exact binaryOf_scans text
  | time => exact timeOf_scans text
  | null | text | list | map | set | pairs | merge | equals | other => trivial

theorem wholeValue_scans (tag : Tag) (text : Option (List Char)) : Scans (wholeValue tag text) := by
  cases text with
  | none => trivial
  | some text => exact .ite _ trivial (simpleValue_scans tag text)

end Node

/-- What is built, or the failure of the notation, at whatever depth. -/
def Builds : Built β → Prop
  | .ok _ => True
  | .error (_, failure) => failure.OfDocument

theorem Builds.both {f : β → γ → δ} {a : Built β} {b : Built γ} (first : Builds a) (second : Builds b) :
    Builds (Built.both f a b) := by
  cases a with
  | ok x => cases b <;> exact second
  | error e =>
    cases b with
    | ok y => exact first
    | error e' =>
      unfold Built.both
      dsimp only
      split
      · exact second
      · exact first

theorem Builds.deeper {a : Built β} (builds : Builds a) (depth : Nat) : Builds (a.deeper depth) := by
  cases a <;> exact builds

theorem Builds.map {f : β → γ} {a : Built β} (builds : Builds a) : Builds (a.map f) := by
  cases a <;> exact builds

theorem Builds.at {result : Except Failure β} (scans : Scans result) (depth : Nat) :
    Builds (Built.at depth result) := by
  cases result <;> exact scans

/-- What is known of the nodes with anchors stands for something, or fails by the notation. -/
def Anchors.Sound (anchors : Anchors) : Prop :=
  ∀ entry ∈ anchors, Builds entry.2.value ∧ Builds entry.2.pair ∧ Builds entry.2.merged

theorem Anchors.Sound.get {anchors : Anchors} (sound : anchors.Sound) (name : String) :
    Builds (anchors.get name).value ∧ Builds (anchors.get name).pair ∧ Builds (anchors.get name).merged := by
  unfold Anchors.get
  split
  next found => exact sound _ (List.mem_of_find?_eq_some found)
  next => exact ⟨trivial, trivial, trivial⟩

namespace Node

variable {anchors : Anchors}

theorem keyValue_builds {value : Built Value} (builds : Builds value) (depth : Nat) (key : Node) :
    Builds (keyValue anchors depth key value) := by
  unfold keyValue
  split
  · split <;> trivial
  · exact builds

theorem entriesOf_builds {merged own : Built (List (Value × Value))} (first : Builds merged)
    (second : Builds own) (depth : Nat) (pairs : List (Node × Node)) :
    Builds (entriesOf anchors depth pairs merged own) := by
  unfold entriesOf
  split
  · exact first.both second
  · trivial

mutual

theorem value_builds (sound : anchors.Sound) (depth : Nat) : (node : Node) → Builds (node.value anchors depth)
  | .scalar tag text => by
    unfold Node.value
    repeat' split
    · exact .at (simpleValue_scans tag text) depth
    · trivial
    · trivial
  | .list tag items => by
    cases tag with
    | list => exact (values_builds sound (depth + 1) items).map
    | pairs => exact (pairValues_builds sound (depth + 1) items).map
    | _ => trivial
  | .map tag pairs => by
    have entries : Builds (entriesOf anchors (depth + 1) pairs (mergedEntries anchors (depth + 1) pairs)
        (ownEntries anchors (depth + 1) pairs)) :=
      entriesOf_builds (mergedEntries_builds sound (depth + 1) pairs)
        (ownEntries_builds sound (depth + 1) pairs) (depth + 1) pairs
    cases tag with
    | map => exact entries.map
    | set => exact entries.map
    | null | truth | integer | number | binary | time | text => exact .at (wholeValue_scans _ _) depth
    | list | pairs | merge | equals | other => trivial
  | .alias name => by
    unfold Node.value
    exact (sound.get name).1.deeper depth

theorem values_builds (sound : anchors.Sound) (depth : Nat) :
    (items : List Node) → Builds (values anchors depth items)
  | [] => trivial
  | node :: rest => by
    unfold values
    exact (value_builds sound depth node).both (values_builds sound depth rest)

theorem pairValues_builds (sound : anchors.Sound) (depth : Nat) :
    (items : List Node) → Builds (pairValues anchors depth items)
  | [] => trivial
  | node :: rest => by
    unfold pairValues
    exact (pairValue_builds sound depth node).both (pairValues_builds sound depth rest)

theorem pairValue_builds (sound : anchors.Sound) (depth : Nat) :
    (node : Node) → Builds (node.pairValue anchors depth)
  | .map _ [(key, value)] => by
    unfold pairValue
    exact (value_builds sound depth key).both (value_builds sound depth value)
  | .alias name => by
    unfold pairValue
    exact (sound.get name).2.1.deeper depth
  | .map _ [] | .map _ (_ :: _ :: _) | .scalar .. | .list .. => by
    unfold pairValue
    trivial

theorem ownEntries_builds (sound : anchors.Sound) (depth : Nat) :
    (pairs : List (Node × Node)) → Builds (ownEntries anchors depth pairs)
  | [] => trivial
  | (key, value) :: rest => by
    unfold ownEntries
    repeat' split
    · exact ownEntries_builds sound depth rest
    · trivial
    · exact ((keyValue_builds (value_builds sound depth key) depth key).both
        (value_builds sound depth value)).both (ownEntries_builds sound depth rest)

theorem mergedEntries_builds (sound : anchors.Sound) (depth : Nat) :
    (pairs : List (Node × Node)) → Builds (mergedEntries anchors depth pairs)
  | [] => trivial
  | (key, value) :: rest => by
    unfold mergedEntries
    split
    · exact (merged_builds sound depth value).both (mergedEntries_builds sound depth rest)
    · exact mergedEntries_builds sound depth rest

theorem merged_builds (sound : anchors.Sound) (depth : Nat) :
    (node : Node) → Builds (node.merged anchors depth)
  | .map _ pairs => by
    unfold merged
    exact (mergedEntries_builds sound depth pairs).both (ownEntries_builds sound depth pairs)
  | .list _ items => by
    unfold merged
    exact mergedAll_builds sound depth items
  | .alias name => by
    unfold merged
    exact (sound.get name).2.2.deeper depth
  | .scalar .. => by
    unfold merged
    trivial

theorem mergedAll_builds (sound : anchors.Sound) (depth : Nat) :
    (items : List Node) → Builds (mergedAll anchors depth items)
  | [] => trivial
  | node :: rest => by
    unfold mergedAll
    exact (mergedAll_builds sound depth rest).both (merged_builds sound depth node)

end

theorem known_builds (sound : anchors.Sound) (node : Node) :
    Builds (node.known anchors).value ∧ Builds (node.known anchors).pair ∧ Builds (node.known anchors).merged :=
  ⟨value_builds sound 0 node, pairValue_builds sound 0 node, merged_builds sound 0 node⟩

end Node

theorem Anchors.sound_ofNodes (nodes : List (String × Node)) (times : Nat) : (ofNodes nodes times).Sound := by
  induction times with
  | zero =>
    intro entry member
    obtain ⟨⟨name, node⟩, _, rfl⟩ := List.mem_map.mp member
    exact Node.known_builds (List.forall_mem_nil _) node.emptied
  | succ times ih =>
    have step (before : Anchors) (sound : before.Sound) :
        Sound (nodes.foldl (fun anchors entry =>
          (entry.1, entry.2.known (anchors ++ ofNodes nodes times)) :: anchors) before) := by
      generalize ofNodes nodes times = earlier at ih
      induction nodes generalizing before with
      | nil => exact sound
      | cons entry rest more =>
        exact more _ (List.forall_mem_cons.mpr
          ⟨Node.known_builds (List.forall_mem_append.mpr ⟨sound, ih⟩) entry.2, sound⟩)
    exact step [] (List.forall_mem_nil _)

end Rirekisho.Yaml
