import Rirekisho.Proofs.Yaml.Value
import Rirekisho.Yaml.Document

namespace Rirekisho.Yaml

variable {β γ : Type} {obstacle : Option Failure}

namespace Reading

open Lexer (Stops)

/-- The tokens to come can be stopped by what stands behind the text. -/
def Sound (obstacle : Option Failure) (r : Reading) : Prop :=
  ∀ failure, .broken failure ∈ r.tokens → Stops obstacle failure

/-- Reading goes on with sound tokens, or it is stopped by what can stop the document. -/
def Reads (obstacle : Option Failure) (act : Read β) : Prop :=
  ∀ r : Reading, r.Sound obstacle → Ends (Stops obstacle) (fun read => read.2.Sound obstacle) (act.run r)

namespace Reads

theorem pure (x : β) : Reads obstacle (Pure.pure x : Read β) := fun _ sound => sound

theorem bind {act : Read β} {next : β → Read γ} (first : Reads obstacle act)
    (rest : ∀ x, Reads obstacle (next x)) : Reads obstacle (act >>= next) :=
  fun r sound => (first r sound).bind fun read kept => rest read.1 read.2 kept

theorem throw {failure : Failure} (stops : Stops obstacle failure) :
    Reads obstacle (MonadExcept.throw failure : Read β) := fun _ _ => stops

theorem fail (flaw : Flaw) : Reads obstacle (Reading.fail flaw : Read β) := throw (Or.inl trivial)

theorem get {next : Reading → Read β} (rest : ∀ r : Reading, r.Sound obstacle → Reads obstacle (next r)) :
    Reads obstacle (MonadState.get >>= next) :=
  fun r sound => rest r sound r sound

theorem put {r : Reading} (sound : r.Sound obstacle) : Reads obstacle (set r : Read PUnit) := fun _ _ => sound

/-- What is changed leaves the tokens as they are, or leaves some behind. -/
theorem modified {f : Reading → Reading} (fewer : ∀ r token, token ∈ (f r).tokens → token ∈ r.tokens) :
    Reads obstacle (modify f : Read Unit) :=
  fun r sound failure member => sound failure (fewer r _ member)

theorem ite (c : Prop) [Decidable c] {act other : Read β} (yes : Reads obstacle act)
    (no : Reads obstacle other) : Reads obstacle (if c then act else other) := by
  split
  · exact yes
  · exact no

theorem map {act : Read β} (reads : Reads obstacle act) (f : β → γ) : Reads obstacle (f <$> act) :=
  fun r sound => (reads r sound).bind fun _ kept => kept

end Reads

theorem peek_reads : Reads obstacle peek := by
  refine .get fun r sound => ?_
  split
  next failure first => exact .throw (sound failure (List.mem_of_mem_head? first))
  next => exact .pure _

theorem drop_reads : Reads obstacle drop := .modified fun _ _ => List.mem_of_mem_tail

theorem at?_reads (tokens : List Token) : Reads obstacle (at? tokens) := peek_reads.bind fun _ => .pure _

theorem setAnchor_reads (anchor : Option String) : Reads obstacle (setAnchor anchor) := by
  cases anchor with
  | none => exact .pure ()
  | some name =>
    have added : Reads obstacle (modify fun r => { r with anchors := name :: r.anchors } : Read Unit) :=
      .modified fun _ _ => id
    exact .get fun r _ => .ite _ ((Reads.fail _).bind fun _ => added) added

theorem ended_reads (anchor : Option String) (node : Node) : Reads obstacle (ended anchor node) := by
  cases anchor with
  | none => exact .pure node
  | some name => exact (Reads.modified fun _ _ => id).bind fun _ => .pure node

theorem repeated_reads (name : String) : Reads obstacle (repeated name) := by
  refine .get fun r sound => ?_
  have told : Reads obstacle (do
      if !r.nodes.any (·.1 == name) then set { r with looped := true }
      return Node.alias name) :=
    .ite _ (.bind (.put sound) fun _ => .pure _) (.pure _)
  exact .ite _ ((Reads.fail _).bind fun _ => told) told

theorem collection_reads (anchor : Option String) {content : Read Node} (reads : Reads obstacle content) :
    Reads obstacle (collection anchor content) := by
  refine (setAnchor_reads anchor).bind fun _ => .get fun r _ => .ite _ (.throw (Or.inl trivial)) ?_
  refine .bind (.modified fun _ _ => id) fun _ => reads.bind fun node => ?_
  exact .bind (.modified fun _ _ => id) fun _ => ended_reads anchor node

theorem tagName_reads (handle : Option String) (rest : String) : Reads obstacle (tagName handle rest) := by
  cases handle with
  | none => exact .pure rest
  | some handle =>
    refine .get fun r _ => ?_
    split
    · exact .pure _
    · exact .fail _

theorem anchor?_reads : Reads obstacle anchor? := by
  refine peek_reads.bind fun token => ?_
  split
  · exact drop_reads.bind fun _ => .pure _
  · exact .pure _

theorem tag?_reads : Reads obstacle tag? := by
  refine peek_reads.bind fun token => ?_
  split
  · exact drop_reads.bind fun _ => .pure _
  · exact .pure _

theorem tagged_reads (tag : Option (Option String × String)) (anchor : Option String) :
    Reads obstacle (do
      let name ← match tag with
        | some (handle, rest) => some <$> tagName handle rest
        | none => Pure.pure none
      return (anchor, name)) := by
  cases tag with
  | none => exact .pure _
  | some tag => exact ((tagName_reads _ _).map _).bind fun _ => .pure _

theorem properties_reads : Reads obstacle properties :=
  anchor?_reads.bind fun before => tag?_reads.bind fun tag =>
    .ite _ (anchor?_reads.bind (tagged_reads tag)) (tagged_reads tag before)

/-- With so much fuel everything that is read goes on with sound tokens, or is stopped. -/
structure AllRead (obstacle : Option Failure) (fuel : Nat) : Prop where
  read block indentless : Reads obstacle (read fuel block indentless)
  readUnless block indentless ends : Reads obstacle (readUnless fuel block indentless ends)
  entries : Reads obstacle (entries fuel)
  entriesInline : Reads obstacle (entriesInline fuel)
  pairs : Reads obstacle (pairs fuel)
  valueOf block ends : Reads obstacle (valueOf fuel block ends)
  flowItems first : Reads obstacle (flowItems fuel first)
  flowPairs first : Reads obstacle (flowPairs fuel first)

section
variable {fuel : Nat} (all : AllRead obstacle fuel)
include all

theorem AllRead.next_read (block indentless : Bool) : Reads obstacle (Reading.read (fuel + 1) block indentless) := by
  unfold Reading.read
  refine peek_reads.bind fun token => ?_
  split
  · exact drop_reads.bind fun _ => repeated_reads _
  · refine properties_reads.bind fun (anchor, name) => peek_reads.bind fun token => ?_
    have list {items : Read (List Node)} (reads : Reads obstacle items) :
        Reads obstacle (collection anchor (.list (collectionTag name .list) <$> items)) :=
      collection_reads anchor (reads.map _)
    have map {pairs : Read (List (Node × Node))} (reads : Reads obstacle pairs) :
        Reads obstacle (collection anchor (.map (collectionTag name .map) <$> pairs)) :=
      collection_reads anchor (reads.map _)
    have text (text : List Char) (plain : Bool) : Reads obstacle (do
        setAnchor anchor
        ended anchor (.scalar (scalarTag name text plain) text)) :=
      (setAnchor_reads anchor).bind fun _ => ended_reads anchor _
    split
    · exact list all.entriesInline
    · exact drop_reads.bind fun _ => text _ _
    · exact drop_reads.bind fun _ => list (all.flowItems true)
    · exact drop_reads.bind fun _ => map (all.flowPairs true)
    · exact drop_reads.bind fun _ => list all.entries
    · exact drop_reads.bind fun _ => map all.pairs
    · exact .ite _ (text _ _) (.fail _)

theorem AllRead.next_readUnless (block indentless : Bool) (ends : List Token) :
    Reads obstacle (Reading.readUnless (fuel + 1) block indentless ends) := by
  unfold Reading.readUnless
  exact (at?_reads ends).bind fun _ => .ite _ (.pure _) (all.read block indentless)

theorem AllRead.next_entries : Reads obstacle (Reading.entries (fuel + 1)) := by
  unfold Reading.entries
  refine peek_reads.bind fun token => ?_
  split
  · exact drop_reads.bind fun _ => (all.readUnless _ _ _).bind fun item => all.entries.bind fun _ => .pure _
  · exact drop_reads.bind fun _ => .pure _
  · exact .fail _

theorem AllRead.next_entriesInline : Reads obstacle (Reading.entriesInline (fuel + 1)) := by
  unfold Reading.entriesInline
  refine peek_reads.bind fun token => ?_
  split
  · exact drop_reads.bind fun _ => (all.readUnless _ _ _).bind fun item => all.entriesInline.bind fun _ => .pure _
  · exact .pure _

theorem AllRead.next_pairs : Reads obstacle (Reading.pairs (fuel + 1)) := by
  unfold Reading.pairs
  refine peek_reads.bind fun token => ?_
  split
  · exact drop_reads.bind fun _ => .pure _
  · exact drop_reads.bind fun _ => (all.readUnless _ _ _).bind fun key => (all.valueOf _ _).bind fun value =>
      all.pairs.bind fun _ => .pure _
  · exact .fail _

theorem AllRead.next_valueOf (block : Bool) (ends : List Token) :
    Reads obstacle (Reading.valueOf (fuel + 1) block ends) := by
  unfold Reading.valueOf
  refine peek_reads.bind fun token => ?_
  split
  · exact drop_reads.bind fun _ => all.readUnless _ _ _
  · exact .pure _

omit all in
/-- Between the items in brackets stands a comma; what follows it is read. -/
theorem afterComma_reads (first : Bool) {next : Read β} (reads : Reads obstacle next) : Reads obstacle (do
    if !first then
      if ← at? [.flowEntry] then drop else fail .missingEnd
    next) := by
  refine .ite _ ((at?_reads _).bind fun _ => ?_) reads
  exact .ite _ (drop_reads.bind fun _ => reads) ((Reads.fail _).bind fun _ => reads)

theorem AllRead.next_flowItems (first : Bool) : Reads obstacle (Reading.flowItems (fuel + 1) first) := by
  unfold Reading.flowItems
  refine (at?_reads _).bind fun _ => .ite _ (drop_reads.bind fun _ => .pure _) (afterComma_reads first ?_)
  refine peek_reads.bind fun token => ?_
  split
  · exact drop_reads.bind fun _ => (all.readUnless _ _ _).bind fun key => (all.valueOf _ _).bind fun value =>
      (all.flowItems false).bind fun _ => .pure _
  · exact drop_reads.bind fun _ => .pure _
  · exact (all.read _ _).bind fun item => (all.flowItems false).bind fun _ => .pure _

theorem AllRead.next_flowPairs (first : Bool) : Reads obstacle (Reading.flowPairs (fuel + 1) first) := by
  unfold Reading.flowPairs
  refine (at?_reads _).bind fun _ => .ite _ (drop_reads.bind fun _ => .pure _) (afterComma_reads first ?_)
  refine peek_reads.bind fun token => ?_
  split
  · exact drop_reads.bind fun _ => (all.readUnless _ _ _).bind fun key => (all.valueOf _ _).bind fun value =>
      (all.flowPairs false).bind fun _ => .pure _
  · exact drop_reads.bind fun _ => .pure _
  · exact (all.read _ _).bind fun item => (all.flowPairs false).bind fun _ => .pure _

end

theorem allRead (fuel : Nat) : AllRead obstacle fuel := by
  induction fuel with
  | zero => constructor <;> intros <;> exact .fail _
  | succ fuel all =>
    exact ⟨all.next_read, all.next_readUnless, all.next_entries, all.next_entriesInline, all.next_pairs,
      all.next_valueOf, all.next_flowItems, all.next_flowPairs⟩

theorem content_reads (fuel : Nat) : Reads obstacle (content fuel) := by
  refine peek_reads.bind fun token => ?_
  split
  · exact .pure _
  · exact .pure _
  · exact .pure _
  · exact .pure _
  · exact (allRead fuel).read true false

/-- All of the tokens can be stopped by what stands behind the text. -/
def AllSound (obstacle : Option Failure) (tokens : List Token) : Prop :=
  ∀ failure, .broken failure ∈ tokens → Stops obstacle failure

theorem AllSound.tail {token : Token} {rest : List Token} (sound : AllSound obstacle (token :: rest)) :
    AllSound obstacle rest :=
  fun failure member => sound failure (List.mem_cons_of_mem _ member)

/-- The directives before a document are read, or what stops them is told. -/
theorem declarations_ends (version : Bool) (handles : List (String × String)) {tokens : List Token}
    (sound : AllSound obstacle tokens) :
    Ends (Stops obstacle) (fun read => AllSound obstacle read.2) (declarations version handles tokens) := by
  induction version, handles, tokens using declarations.induct with
  | case1 version handles major rest repeated =>
    rw [declarations, if_pos repeated]
    exact Or.inl trivial
  | case2 version handles major rest fresh ih =>
    rw [declarations, if_neg fresh]
    exact ih sound.tail
  | case3 version handles handle front rest repeated =>
    rw [declarations, if_pos repeated]
    exact Or.inl trivial
  | case4 version handles handle front rest fresh ih =>
    rw [declarations, if_neg fresh]
    exact ih sound.tail
  | case5 version handles rest ih =>
    rw [declarations]
    exact ih sound.tail
  | case6 version handles failure rest =>
    rw [declarations]
    exact sound failure (List.mem_cons_self ..)
  | case7 version handles rest other1 other2 other3 other4 =>
    rw [declarations] <;> assumption

theorem finish_ends {tokens : List Token} (sound : AllSound obstacle tokens) :
    Ends (Stops obstacle) (fun _ => True) (finish tokens) := by
  unfold finish
  split
  · trivial
  next rest _ =>
    have fewer : AllSound obstacle (tokens.dropWhile (· == .documentEnd)) := fun failure member =>
      sound failure ((List.dropWhile_sublist _).mem member)
    have read := declarations_ends false [] fewer
    cases declared : declarations false [] (tokens.dropWhile (· == .documentEnd)) with
    | error failure => exact read.of_error declared
    | ok _ => exact Or.inl trivial

/-- The value of the node that is read, or what stops it, or what follows it. -/
theorem value_ends (read : Node × Reading) (sound : read.2.Sound obstacle) :
    Ends (Stops obstacle) (fun _ => True) (do
      finish read.2.tokens
      match read.1.value (Anchors.ofNodes read.2.nodes.reverse (if read.2.looped then unfolding else 1)) 0 with
      | .ok value => return value
      | .error (_, failure) => throw failure : Except Failure Value) := by
  refine (finish_ends sound).bind fun _ _ => ?_
  have builds := Node.value_builds (Anchors.sound_ofNodes read.2.nodes.reverse
    (if read.2.looped then unfolding else 1)) 0 read.1
  split
  · trivial
  next stopped =>
    rw [stopped] at builds
    exact Or.inl builds

/-- The value of a document that stands alone, or what stops it. -/
theorem document_ends {tokens : List Token} (sound : AllSound obstacle tokens) :
    Ends (Stops obstacle) (fun _ => True) (document tokens) := by
  unfold document
  dsimp only
  split
  case h_1 => trivial
  case h_4 => exact ((allRead _).read true false { tokens, handles := usualHandles } sound).bind value_ends
  -- a directive or the mark of a document comes first
  all_goals
    refine (declarations_ends false [] sound).bind fun declared kept => ?_
    obtain ⟨handles, rest⟩ := declared
    split
    next same =>
      cases same
      exact (content_reads _ ⟨_, handles, [], [], false, 0⟩ (AllSound.tail kept)).bind value_ends
    next => exact Or.inl trivial

end Reading

/-- A document has a value, or its notation has a flaw, or it is stopped by what stands behind its text. -/
theorem read_ends (source : Source) : Ends (Lexer.Stops source.obstacle) (fun _ => True) (read source) :=
  Reading.document_ends fun _ => Token.broken_ofSource

end Rirekisho.Yaml
