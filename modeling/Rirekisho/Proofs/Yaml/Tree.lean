import Rirekisho.Proofs.Storage.TextFile
import Rirekisho.Proofs.Value.Lookup
import Rirekisho.Yaml.Document

namespace Rirekisho

namespace Yaml

/-- The source that a text in a file is. -/
theorem Source.ofContent_toUTF8 (s : String) :
    Source.ofContent (.bytes s.toUTF8) = Source.visible { text := Text.unifyNewlines s.toList } := by
  unfold Source.ofContent
  rw [Content.text?_toUTF8]
  dsimp only
  rw [Source.ofText, String.toList_ofList]

theorem read_of_tokens {text : String} {tokens : List Token} {value : Value}
    (lexed : Token.ofSource (Source.visible { text := Text.unifyNewlines text.toList }) = tokens)
    (composed : Reading.document tokens = .ok value) : read (.ofContent (.bytes text.toUTF8)) = .ok value := by
  rw [read, Source.ofContent_toUTF8, lexed, composed]

namespace Reading

/-- The node of a document, and what is known after it has been read. -/
def rooted (tokens : List Token) : Except Failure (Node × Reading) := do
  let fuel := 4 * tokens.length + 4
  match tokens with
  | .declaration _ :: _ | .documentStart :: _ =>
    match ← declarations false [] tokens with
    | (handles, .documentStart :: rest) => (content fuel).run { tokens := rest, handles }
    | _ => throw Flaw.furtherDocument.toFailure
  | _ => (read fuel true false).run { tokens, handles := usualHandles }

/-- The tree of a node after which the document ends, and what is known of the nodes with anchors in it. -/
def closed : Node × Reading → Except Failure (Node × Anchors)
  | (node, after) => do
    finish after.tokens
    return (node, Anchors.ofNodes after.nodes.reverse (if after.looped then unfolding else 1))

/-- The tree that a document is. -/
def composed (tokens : List Token) : Except Failure (Node × Anchors) :=
  if tokens = [.streamEnd] then .ok (.empty, []) else rooted tokens >>= closed

/-- What a tree stands for. -/
def valued : Node × Anchors → Except Failure Value
  | (node, anchors) =>
    match node.value anchors 0 with
    | .ok value => .ok value
    | .error (_, failure) => .error failure

theorem document_of_more {tokens : List Token} (more : tokens ≠ [.streamEnd]) :
    document tokens = rooted tokens >>= fun root => closed root >>= valued := by
  have ended (root : Node × Reading) : (closed root >>= valued) = (do
      finish root.2.tokens
      let anchors := Anchors.ofNodes root.2.nodes.reverse (if root.2.looped then unfolding else 1)
      match root.1.value anchors 0 with
      | .ok value => return value
      | .error (_, failure) => throw failure) := by
    obtain ⟨node, after⟩ := root
    rw [closed, bind_assoc]
    rfl
  simp only [ended]
  unfold document rooted
  split
  next => exact absurd rfl more
  next =>
    cases declarations false [] _ with
    | error failure => rfl
    | ok found =>
      rcases found with ⟨handles, _ | ⟨token, rest⟩⟩
      · rfl
      · cases token <;> rfl
  next =>
    cases declarations false [] _ with
    | error failure => rfl
    | ok found =>
      rcases found with ⟨handles, _ | ⟨token, rest⟩⟩
      · rfl
      · cases token <;> rfl
  next undeclared unstarted =>
    split
    next => exact absurd rfl (undeclared _ _)
    next => exact absurd rfl (unstarted _)
    next => rfl

/-- A document stands for what its tree stands for. -/
theorem document_eq (tokens : List Token) : document tokens = composed tokens >>= valued := by
  unfold composed
  split
  next alone =>
    subst alone
    rfl
  next more => rw [document_of_more more, bind_assoc]

end Reading

theorem Built.both_eq_ok {α β γ : Type} {f : α → β → γ} {a : Built α} {b : Built β} {z : γ} :
    Built.both f a b = .ok z ↔ ∃ x y, a = .ok x ∧ b = .ok y ∧ f x y = z := by
  cases a with
  | ok x =>
    cases b with
    | ok y => exact ⟨fun same => ⟨x, y, rfl, rfl, Except.ok.inj same⟩, by rintro ⟨_, _, ⟨⟩, ⟨⟩, rfl⟩; rfl⟩
    | error e => exact ⟨nofun, nofun⟩
  | error e =>
    cases b with
    | ok y => exact ⟨nofun, nofun⟩
    | error e' =>
      refine ⟨fun same => ?_, by rintro ⟨_, _, ⟨⟩, _⟩⟩
      dsimp only [Built.both] at same
      split at same <;> cases same

namespace Node

variable {anchors : Anchors} {depth : Nat} {label : String} {x y : Node} {v w : Value}

theorem value_map {pairs : List (Node × Node)} : (Node.map .map pairs).value anchors depth = .ok w ↔
    ∃ merged own, mergesWell anchors pairs = true ∧ mergedEntries anchors (depth + 1) pairs = .ok merged ∧
      ownEntries anchors (depth + 1) pairs = .ok own ∧ w = .map (Value.insertAll [] (merged ++ own)) := by
  rw [value]
  dsimp only [entriesOf]
  cases mergesWell anchors pairs with
  | false => exact ⟨by rintro ⟨⟩, by rintro ⟨_, _, ⟨⟩, _⟩⟩
  | true =>
    rw [if_pos rfl]
    constructor
    · intro built
      cases both : Built.both (· ++ ·) (mergedEntries anchors (depth + 1) pairs)
          (ownEntries anchors (depth + 1) pairs) with
      | error e =>
        rw [both] at built
        cases built
      | ok entries =>
        rw [both] at built
        cases built
        obtain ⟨merged, own, first, second, rfl⟩ := Built.both_eq_ok.mp both
        exact ⟨merged, own, rfl, first, second, rfl⟩
    · rintro ⟨merged, own, _, first, second, rfl⟩
      rw [first, second]
      rfl

theorem value_list {items : List Node} : (Node.list .list items).value anchors depth = .ok w ↔
    ∃ vs, values anchors (depth + 1) items = .ok vs ∧ w = .list vs := by
  rw [value]
  cases values anchors (depth + 1) items with
  | error e => exact ⟨by rintro ⟨⟩, by rintro ⟨_, ⟨⟩, _⟩⟩
  | ok vs => exact ⟨fun same => ⟨vs, rfl, (Except.ok.inj same).symm⟩, by rintro ⟨_, ⟨⟩, rfl⟩; rfl⟩

theorem ownEntries_cons {key : Node} {rest : List (Node × Node)} {entries : Entries}
    (own : key.tag anchors ≠ .merge) : ownEntries anchors depth ((key, x) :: rest) = .ok entries ↔
      ∃ k v later, isCollection (key.tag anchors) = false ∧
        keyValue anchors depth key (key.value anchors depth) = .ok k ∧ x.value anchors depth = .ok v ∧
        ownEntries anchors depth rest = .ok later ∧ entries = (k, v) :: later := by
  rw [ownEntries, if_neg own]
  cases simple : isCollection (key.tag anchors) with
  | true => exact ⟨by rintro ⟨⟩, by rintro ⟨_, _, _, ⟨⟩, _⟩⟩
  | false =>
    rw [if_neg (by decide), Built.both_eq_ok]
    simp only [Built.both_eq_ok]
    constructor
    · rintro ⟨_, later, ⟨k, v, key, value, rfl⟩, others, rfl⟩
      exact ⟨k, v, later, trivial, key, value, others, rfl⟩
    · rintro ⟨k, v, later, _, key, value, others, rfl⟩
      exact ⟨_, later, ⟨k, v, key, value, rfl⟩, others, rfl⟩

theorem ownEntries_append {first second : List (Node × Node)} {entries : Entries} :
    ownEntries anchors depth (first ++ second) = .ok entries ↔
      ∃ es later, ownEntries anchors depth first = .ok es ∧ ownEntries anchors depth second = .ok later ∧
        entries = es ++ later := by
  induction first generalizing entries with
  | nil => exact ⟨fun same => ⟨[], _, rfl, same, rfl⟩, by rintro ⟨_, _, ⟨⟩, same, rfl⟩; exact same⟩
  | cons pair rest ih =>
    obtain ⟨key, x⟩ := pair
    by_cases merging : key.tag anchors = .merge
    · rw [List.cons_append, ownEntries, if_pos merging, ownEntries, if_pos merging]
      exact ih
    · rw [List.cons_append, ownEntries_cons merging]
      simp only [ownEntries_cons merging, ih]
      constructor
      · rintro ⟨k, v, _, simple, key, value, ⟨es, later, here, there, rfl⟩, rfl⟩
        exact ⟨_, later, ⟨k, v, es, simple, key, value, here, rfl⟩, there, rfl⟩
      · rintro ⟨_, later, ⟨k, v, es, simple, key, value, here, rfl⟩, there, rfl⟩
        exact ⟨k, v, _, simple, key, value, ⟨es, later, here, there, rfl⟩, rfl⟩

theorem values_append {first second : List Node} {items : List Value} :
    values anchors depth (first ++ second) = .ok items ↔
      ∃ vs later, values anchors depth first = .ok vs ∧ values anchors depth second = .ok later ∧
        items = vs ++ later := by
  induction first generalizing items with
  | nil => exact ⟨fun same => ⟨[], _, rfl, same, rfl⟩, by rintro ⟨_, _, ⟨⟩, same, rfl⟩; exact same⟩
  | cons node rest ih =>
    simp only [List.cons_append, values, Built.both_eq_ok, ih]
    constructor
    · rintro ⟨v, _, value, ⟨vs, later, here, there, rfl⟩, rfl⟩
      exact ⟨_, later, ⟨v, vs, value, here, rfl⟩, there, rfl⟩
    · rintro ⟨_, later, ⟨v, vs, value, here, rfl⟩, there, rfl⟩
      exact ⟨v, _, value, ⟨vs, later, here, there, rfl⟩, rfl⟩

theorem values_length {nodes : List Node} {vs : List Value}
    (stand : values anchors depth nodes = .ok vs) : vs.length = nodes.length := by
  induction nodes generalizing vs with
  | nil =>
    cases stand
    rfl
  | cons node rest ih =>
    obtain ⟨v, later, _, others, rfl⟩ := Built.both_eq_ok.mp stand
    exact congrArg (· + 1) (ih others)

/-- The node is a key with a label for its value, and not one for merging. -/
structure IsLabel (anchors : Anchors) (depth : Nat) (label : String) (key : Node) : Prop where
  own : key.tag anchors ≠ .merge
  simple : isCollection (key.tag anchors) = false
  text : keyValue anchors depth key (key.value anchors depth) = .ok (.text label)

/-- Entries come from keys. -/
theorem isLabel_of_mem {pairs : List (Node × Node)} {entries : Entries}
    (built : ownEntries anchors depth pairs = .ok entries) {entry : Value × Value} (member : entry ∈ entries)
    (labelled : entry.1 = .text label) : ∃ pair ∈ pairs, IsLabel anchors depth label pair.1 := by
  induction pairs generalizing entries with
  | nil =>
    cases built
    cases member
  | cons pair rest ih =>
    obtain ⟨key, x⟩ := pair
    by_cases merging : key.tag anchors = .merge
    · rw [ownEntries, if_pos merging] at built
      obtain ⟨pair, later, named⟩ := ih built member
      exact ⟨pair, List.mem_cons_of_mem _ later, named⟩
    · obtain ⟨k, v, later, simple, stands, _, others, rfl⟩ := (ownEntries_cons merging).mp built
      rcases List.mem_cons.mp member with rfl | later
      · exact ⟨_, List.mem_cons_self .., merging, simple, stands.trans (congrArg _ labelled)⟩
      · obtain ⟨pair, later, named⟩ := ih others later
        exact ⟨pair, List.mem_cons_of_mem _ later, named⟩

theorem mergedEntries_slot {key : Node} (own : key.tag anchors ≠ .merge) (before after : List (Node × Node)) :
    mergedEntries anchors depth (before ++ (key, x) :: after) =
      mergedEntries anchors depth (before ++ (key, y) :: after) := by
  induction before with
  | nil => rw [List.nil_append, List.nil_append, mergedEntries, mergedEntries, if_neg own, if_neg own]
  | cons pair rest ih => rw [List.cons_append, List.cons_append, mergedEntries, mergedEntries, ih]

theorem mergesWell_slot {key : Node} (own : key.tag anchors ≠ .merge) (before after : List (Node × Node)) :
    mergesWell anchors (before ++ (key, x) :: after) = mergesWell anchors (before ++ (key, y) :: after) := by
  induction before with
  | nil =>
    have other : (key.tag anchors != .merge) = true := bne_iff_ne.mpr own
    simp only [List.nil_append, mergesWell, other, Bool.true_or]
  | cons pair rest ih => rw [List.cons_append, List.cons_append, mergesWell, mergesWell, ih]

end Node

/-- A place in a mapping for the node under a label, the last one of that label. The depth is that of the
entries. -/
structure Slot (anchors : Anchors) (depth : Nat) (label : String) where
  before : List (Node × Node)
  key : Node
  after : List (Node × Node)
  named : key.IsLabel anchors depth label
  last : ∀ pair ∈ after, ¬ pair.1.IsLabel anchors depth label

namespace Slot

variable {anchors : Anchors} {depth : Nat} {label : String} (slot : Slot anchors (depth + 1) label) {y : Node}
  {w : Value}

/-- The mapping with a node in the place. -/
def fill (x : Node) : Node := .map .map (slot.before ++ (slot.key, x) :: slot.after)

/-- What a mapping stands for, in dependence on the node in one place. -/
theorem value_fill (filled : (slot.fill y).value anchors depth = .ok w) :
    ∃ place : Value.Place label, (∃ v, y.value anchors (depth + 1) = .ok v) ∧
      ∀ x v, x.value anchors (depth + 1) = .ok v →
        (slot.fill x).value anchors depth = .ok (.map (place.fill v)) := by
  obtain ⟨merged, own, well, first, second, rfl⟩ := Node.value_map.mp filled
  obtain ⟨before, _, here, there, rfl⟩ := Node.ownEntries_append.mp second
  obtain ⟨k, v, after, simple, text, value, later, rfl⟩ := (Node.ownEntries_cons slot.named.own).mp there
  have last : ∀ entry ∈ after, entry.1 ≠ .text label := by
    intro entry member labelled
    obtain ⟨pair, among, named⟩ := Node.isLabel_of_mem later member labelled
    exact slot.last pair among named
  refine ⟨⟨merged ++ before, after, last⟩, ⟨v, value⟩, fun x u stands => ?_⟩
  refine Node.value_map.mpr ⟨merged, before ++ (.text label, u) :: after, ?_, ?_, ?_, ?_⟩
  · rw [Node.mergesWell_slot slot.named.own]
    exact well
  · rw [Node.mergedEntries_slot slot.named.own]
    exact first
  · refine Node.ownEntries_append.mpr ⟨before, _, here, ?_, rfl⟩
    exact (Node.ownEntries_cons slot.named.own).mpr ⟨_, u, after, simple, slot.named.text, stands, later, rfl⟩
  · rw [Value.Place.fill, List.append_assoc]

end Slot

end Yaml

end Rirekisho
