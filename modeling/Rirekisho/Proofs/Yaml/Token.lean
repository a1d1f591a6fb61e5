import Rirekisho.Proofs.Outcome
import Rirekisho.Yaml.Token

namespace Rirekisho

variable {β γ : Type}

/-- The failure comes from the notation of a document: it has none that is valid, or a value is none or
cannot be told. -/
def Failure.OfDocument : Failure → Prop
  | .badDocument _ | .badLiteral | .noNumber _ | .overflow | .tooDeep | .unknownWord | .emptyLiteral => True
  | .notMapping | .notText => True
  | _ => False

namespace Yaml

/-- What is read from a part of a document, or the failure of its notation. -/
abbrev Scans (result : Except Failure β) : Prop := Ends Failure.OfDocument (fun _ => True) result

theorem quotedBreaks_scans (fuel : Nat) (c : Cursor) (done : List Char) : Scans (quotedBreaks fuel c done) := by
  induction fuel generalizing c done with
  | zero => trivial
  | succ fuel ih =>
    unfold quotedBreaks
    split
    · trivial
    · dsimp only
      split
      · exact ih _ _
      · trivial

theorem quotedSpace_scans (c : Cursor) : Scans (quotedSpace c) := by
  unfold quotedSpace
  dsimp only
  split
  next b c _ =>
    have breaks := quotedBreaks_scans (c.rest.length + 1) c []
    cases read : quotedBreaks (c.rest.length + 1) c [] with
    | ok x => trivial
    | error failure => exact breaks.of_error read
  next => trivial

theorem numberedCharacter_scans (n : Nat) : Scans (numberedCharacter n) := by
  unfold numberedCharacter
  repeat' split
  all_goals trivial

theorem escaped_scans (c : Cursor) : Scans (escaped c) := by
  unfold escaped
  dsimp only
  split
  · trivial
  · split
    · trivial
    · split
      · trivial
      · split
        · trivial
        next n _ =>
          have character := numberedCharacter_scans n
          cases read : numberedCharacter n with
          | ok y => trivial
          | error failure => exact character.of_error read
    · split
      · exact quotedBreaks_scans _ _ _
      · trivial

theorem quotedRest_scans (double : Bool) (fuel : Nat) (c : Cursor) (done : List (List Char)) :
    Scans (quotedRest double fuel c done) := by
  induction fuel generalizing c done with
  | zero => trivial
  | succ fuel ih =>
    unfold quotedRest
    split
    · trivial
    · split
      · exact ih _ _
      · split
        · exact ih _ _
        · split
          · have escape := escaped_scans c
            cases read : escaped c with
            | ok x => exact ih _ _
            | error failure => exact escape.of_error read
          · split
            · have space := quotedSpace_scans c
              cases read : quotedSpace c with
              | ok x => exact ih _ _
              | error failure => exact space.of_error read
            · trivial

theorem takeIncrement_scans (c : Cursor) : Scans (takeIncrement c) := by
  unfold takeIncrement
  split <;> trivial

theorem blockHeader_scans (c : Cursor) : Scans (blockHeader c) := by
  unfold blockHeader
  refine (takeIncrement_scans _).bind fun (increment, c) _ => ?_
  dsimp only
  repeat' split
  all_goals trivial

theorem blockScalar_scans (fold : Bool) (parent : Nat) (c : Cursor) : Scans (blockScalar fold parent c) := by
  unfold blockScalar
  exact (blockHeader_scans _).bind fun _ _ => trivial

/-- The token is one of the text. -/
def Token.IsWhole : Token → Prop
  | .broken _ => False
  | _ => True

namespace Lexer

theorem anchorName_scans (c : Cursor) : Scans (anchorName c) := by
  unfold anchorName
  dsimp only
  split <;> trivial

theorem tagRest_scans (c : Cursor) : Scans (tagRest c) := by
  unfold tagRest
  dsimp only
  repeat' split
  all_goals trivial

theorem tagHandle_scans (c : Cursor) : Scans (tagHandle c) := by
  unfold tagHandle
  dsimp only
  repeat' split
  all_goals trivial

theorem versionNumber_scans (c : Cursor) : Scans (versionNumber c) := by
  unfold versionNumber
  dsimp only
  repeat' split
  all_goals trivial

theorem versionDeclaration_scans (c : Cursor) : Scans (versionDeclaration c) := by
  unfold versionDeclaration
  refine (versionNumber_scans _).bind fun (major, c) _ => ?_
  dsimp only
  split
  · trivial
  · refine (versionNumber_scans _).bind fun (_, c) _ => ?_
    dsimp only
    split <;> trivial

theorem handleDeclaration_scans (c : Cursor) : Scans (handleDeclaration c) := by
  unfold handleDeclaration
  refine (tagHandle_scans _).bind fun (handle, c) _ => ?_
  dsimp only
  split
  · trivial
  · refine (tagRest_scans _).bind fun (front, c) _ => ?_
    dsimp only
    split <;> trivial

/-- A token of the text is read, or the failure of its notation. -/
abbrev ScansToken (result : Except Failure (Token × Cursor)) : Prop :=
  Ends Failure.OfDocument (fun read => read.1.IsWhole) result

theorem tagToken_scans (c : Cursor) : ScansToken (tagToken c) := by
  unfold tagToken
  -- what follows the tag itself
  have closed (token : Token) (c : Cursor) (whole : token.IsWhole) : ScansToken
      (if endsPart c.next then return (token, c) else throw Flaw.badTag.toFailure) := by
    split
    · exact whole
    · trivial
  split
  · refine (tagRest_scans _).bind fun (rest, c) _ => ?_
    dsimp only
    split
    · trivial
    · exact closed _ _ trivial
  · split
    · exact closed _ _ trivial
    · dsimp only
      split
      · refine (tagHandle_scans _).bind fun (handle, c) _ => ?_
        exact (tagRest_scans _).bind fun (rest, c) _ => closed _ _ trivial
      · exact (tagRest_scans _).bind fun (rest, c) _ => closed _ _ trivial

theorem endOfDirective_scans (declaration : Declaration) (c : Cursor) : ScansToken
    (match c.restOfLine? with
      | some c => return (.declaration declaration, c)
      | none => throw Flaw.badDirective.toFailure) := by
  split <;> trivial

theorem directiveToken_scans (c : Cursor) : ScansToken (directiveToken c) := by
  unfold directiveToken
  dsimp only
  split
  · trivial
  · split
    · exact (versionDeclaration_scans _).bind fun _ _ => endOfDirective_scans _ _
    · split
      · exact (handleDeclaration_scans _).bind fun _ _ => endOfDirective_scans _ _
      · exact endOfDirective_scans _ _

theorem quotedToken_scans (double : Bool) (c : Cursor) : ScansToken (quotedToken double c) :=
  (quotedRest_scans double _ _ _).bind fun _ _ => trivial

/-- All tokens so far are of the text, and this stands behind it. -/
structure Sound (obstacle : Option Failure) (l : Lexer) : Prop where
  whole : ∀ token ∈ l.tokens, token.IsWhole
  behind : l.obstacle = obstacle

/-- The next state of the tokens is sound, or the failure is one of the notation. -/
abbrev Steps (obstacle : Option Failure) (result : Except Failure Lexer) : Prop :=
  Ends Failure.OfDocument (Sound obstacle) result

section
variable {obstacle : Option Failure} {l : Lexer} {token : Token}

theorem Sound.add (sound : l.Sound obstacle) (whole : token.IsWhole) : (l.add token).Sound obstacle :=
  ⟨List.forall_mem_cons.mpr ⟨whole, sound.whole⟩, sound.behind⟩

theorem Sound.addOver (sound : l.Sound obstacle) (length : Nat) (whole : token.IsWhole) :
    (l.addOver length token).Sound obstacle :=
  ⟨(sound.add whole).whole, sound.behind⟩

theorem whole_putBefore (whole : token.IsWhole) (n : Nat) {tokens : List Token}
    (all : ∀ other ∈ tokens, other.IsWhole) : ∀ other ∈ putBefore token n tokens, other.IsWhole := by
  induction n generalizing tokens with
  | zero => exact List.forall_mem_cons.mpr ⟨whole, all⟩
  | succ n ih =>
    cases tokens with
    | nil => exact List.forall_mem_cons.mpr ⟨whole, all⟩
    | cons last rest =>
      obtain ⟨first, others⟩ := List.forall_mem_cons.mp all
      exact List.forall_mem_cons.mpr ⟨first, ih others⟩

theorem Sound.insert (sound : l.Sound obstacle) (number : Nat) (whole : token.IsWhole) :
    (l.insert number token).Sound obstacle :=
  ⟨whole_putBefore whole _ sound.whole, sound.behind⟩

theorem Sound.dedent (sound : l.Sound obstacle) (column : Option Nat) (indents : List Nat) :
    (Lexer.dedent column indents l).Sound obstacle := by
  induction indents generalizing l with
  | nil => exact ⟨sound.whole, sound.behind⟩
  | cons indent outer ih =>
    unfold Lexer.dedent
    split
    · exact ih (sound.add trivial)
    · exact ⟨sound.whole, sound.behind⟩

theorem Sound.unwind (sound : l.Sound obstacle) (column : Option Nat) : (l.unwind column).Sound obstacle := by
  unfold Lexer.unwind
  split
  · exact sound
  · exact sound.dedent column l.indents

theorem Sound.skipBlanks (sound : l.Sound obstacle) (fuel : Nat) : (Lexer.skipBlanks fuel l).Sound obstacle := by
  induction fuel generalizing l with
  | zero => exact sound
  | succ fuel ih =>
    unfold Lexer.skipBlanks
    dsimp only
    split
    · exact ih ⟨sound.whole, sound.behind⟩
    · exact ⟨sound.whole, sound.behind⟩

theorem Sound.advance (sound : l.Sound obstacle) : l.advance.Sound obstacle := by
  refine Sound.skipBlanks ?_ _
  unfold skipMark
  split
  · exact ⟨sound.whole, sound.behind⟩
  · exact sound

theorem Sound.forget (sound : l.Sound obstacle) : Steps obstacle l.forget := by
  unfold Lexer.forget
  split
  · split
    · trivial
    · exact ⟨sound.whole, sound.behind⟩
  · exact sound

theorem Sound.dropStale (sound : l.Sound obstacle) : Steps obstacle l.dropStale := by
  unfold Lexer.dropStale
  split
  · trivial
  · exact ⟨sound.whole, sound.behind⟩

theorem Sound.settle (sound : l.Sound obstacle) : Steps obstacle l.settle :=
  sound.dropStale.bind fun l sound => sound.unwind (some l.cursor.column)

theorem Sound.markPlace (sound : l.Sound obstacle) : Steps obstacle l.markPlace := by
  unfold Lexer.markPlace
  split
  · exact sound.forget.bind fun l sound => ⟨sound.whole, sound.behind⟩
  · exact sound

theorem Sound.between (sound : l.Sound obstacle) : Steps obstacle l.between :=
  (sound.unwind none).forget.bind fun _ sound => ⟨sound.whole, sound.behind⟩

theorem Sound.openFlow (sound : l.Sound obstacle) (whole : token.IsWhole) :
    Steps obstacle (l.openFlow token) := by
  unfold Lexer.openFlow
  split
  · trivial
  · refine sound.markPlace.bind fun l sound => ?_
    have added := sound.addOver 1 whole
    exact ⟨added.whole, added.behind⟩

theorem Sound.closeFlow (sound : l.Sound obstacle) (whole : token.IsWhole) :
    Steps obstacle (l.closeFlow token) := by
  refine sound.forget.bind fun l sound => ?_
  split
  · trivial
  · have added := sound.addOver 1 whole
    exact ⟨added.whole, added.behind⟩

theorem Sound.beginBlock (sound : l.Sound obstacle) (flaw : Flaw) (whole : token.IsWhole) :
    Steps obstacle (l.beginBlock flaw token) := by
  unfold Lexer.beginBlock
  split
  · exact sound
  · split
    · trivial
    · split
      next begun indented =>
        unfold indentAt at indented
        split at indented <;> cases indented
        exact Sound.add ⟨sound.whole, sound.behind⟩ whole
      next => exact sound

/-- A mark that may begin a collection, with what is known after it. -/
theorem Sound.mark (sound : l.Sound obstacle) (flaw : Flaw) {begin : Token} (begins : begin.IsWhole)
    (whole : token.IsWhole) (allowed : Lexer → Bool) :
    Steps obstacle (do
      let l ← (← l.beginBlock flaw begin).forget
      return { l.addOver 1 token with keyAllowed := allowed l }) := by
  refine (sound.beginBlock flaw begins).bind fun l sound => sound.forget.bind fun l sound => ?_
  have added := sound.addOver 1 whole
  exact ⟨added.whole, added.behind⟩

theorem Sound.valueMark (sound : l.Sound obstacle) : Steps obstacle l.valueMark := by
  unfold Lexer.valueMark
  split
  next place outer _ =>
    dsimp only
    have key := Sound.insert (l := { l with places := none :: outer, keyAllowed := false })
      ⟨sound.whole, sound.behind⟩ place.token (show Token.key.IsWhole from trivial)
    refine Sound.addOver ?_ 1 trivial
    split
    · have map := key.insert place.token (show Token.blockMapStart.IsWhole from trivial)
      exact ⟨map.whole, map.behind⟩
    · exact key
  next =>
    exact sound.mark .misplacedValue (show Token.blockMapStart.IsWhole from trivial)
      (show Token.value.IsWhole from trivial) fun l => !l.inFlow

theorem Sound.node (sound : l.Sound obstacle) {scan : Cursor → Except Failure (Token × Cursor)}
    (scans : ∀ c, ScansToken (scan c)) : Steps obstacle (l.node scan) := by
  refine sound.markPlace.bind fun l sound => (scans l.cursor).bind fun (token, c) whole => ?_
  have added := sound.add whole
  exact ⟨added.whole, added.behind⟩

theorem Sound.blockToken (sound : l.Sound obstacle) (fold : Bool) : Steps obstacle (l.blockToken fold) := by
  refine sound.forget.bind fun l sound => (blockScalar_scans _ _ _).bind fun (text, c) _ => ?_
  have added := sound.add (show (Token.scalar text false).IsWhole from trivial)
  exact ⟨added.whole, added.behind⟩

theorem Sound.plainToken (sound : l.Sound obstacle) : Steps obstacle l.plainToken := by
  refine sound.markPlace.bind fun l sound => ?_
  have plain : (Token.scalar (plainScalar l.inFlow l.inner l.cursor).1 true).IsWhole := trivial
  have added := sound.add plain
  exact ⟨added.whole, added.behind⟩

end

section
variable {obstacle : Option Failure} {l : Lexer}

theorem anchor_scans (token : String → Token) (whole : ∀ name, (token name).IsWhole) (c : Cursor) :
    ScansToken (do
      let (name, c) ← anchorName c.step
      return (token name, c)) :=
  (anchorName_scans c.step).bind fun (name, _) _ => whole name

theorem Sound.token (sound : l.Sound obstacle) (x : Char) : Steps obstacle (l.token x) := by
  -- one line for each branch, in their order
  refine .ite _ ?_ <| .ite _ ?_ <| .ite _ ?_ <|
    .ite _ (sound.openFlow trivial) <| .ite _ (sound.openFlow trivial) <|
    .ite _ (sound.closeFlow trivial) <| .ite _ (sound.closeFlow trivial) <|
    .ite _ ?_ <|
    .ite _ (sound.mark .misplacedEntry (show Token.blockListStart.IsWhole from trivial)
      (show Token.blockEntry.IsWhole from trivial) fun _ => true) <|
    .ite _ (sound.mark .misplacedKey (show Token.blockMapStart.IsWhole from trivial)
      (show Token.key.IsWhole from trivial) fun l => !l.inFlow) <|
    .ite _ sound.valueMark <|
    .ite _ (sound.node (anchor_scans .alias fun _ => trivial)) <|
    .ite _ (sound.node (anchor_scans .anchor fun _ => trivial)) <|
    .ite _ (sound.node tagToken_scans) <|
    .ite _ (sound.blockToken false) <| .ite _ (sound.blockToken true) <|
    .ite _ (sound.node (quotedToken_scans false)) <| .ite _ (sound.node (quotedToken_scans true)) <|
    .ite _ sound.plainToken trivial
  · refine sound.between.bind fun l sound => (directiveToken_scans _).bind fun (token, c) whole => ?_
    have added := sound.add whole
    exact ⟨added.whole, added.behind⟩
  · exact sound.between.bind fun l sound => sound.addOver 3 trivial
  · exact sound.between.bind fun l sound => sound.addOver 3 trivial
  · refine sound.forget.bind fun l sound => ?_
    have added := sound.addOver 1 (show Token.flowEntry.IsWhole from trivial)
    exact ⟨added.whole, added.behind⟩

end

/-- What stops a document is a flaw of its notation, or what stands behind its text. -/
def Stops (obstacle : Option Failure) (failure : Failure) : Prop :=
  failure.OfDocument ∨ obstacle = some failure

section
variable {obstacle : Option Failure} {l : Lexer}

theorem Sound.within (sound : l.Sound obstacle) {outcome : Except Failure Lexer}
    (steps : Steps obstacle outcome) : Ends (Stops obstacle) (Sound obstacle) (l.within outcome) := by
  cases outcome with
  | ok after =>
    unfold Lexer.within reached?
    dsimp only
    split
    · cases stands : after.obstacle with
      | none => exact steps
      | some failure => exact Or.inr (steps.behind.symm.trans stands)
    · exact steps
  | error failure =>
    change Stops obstacle (if failure = Flaw.openQuote.toFailure then l.obstacle.getD failure else failure)
    split
    · cases stands : l.obstacle with
      | none => exact Or.inl steps
      | some behind => exact Or.inr (sound.behind.symm.trans stands)
    · exact Or.inl steps

theorem Steps.stops {result : Except Failure Lexer} (steps : Steps obstacle result) :
    Ends (Stops obstacle) (Sound obstacle) result :=
  steps.mono (fun _ => Or.inl) fun _ => id

theorem Sound.step (sound : l.Sound obstacle) :
    Ends (Stops obstacle) (fun next => next.1.Sound obstacle) l.step := by
  refine (sound.within (show Steps obstacle (.ok l.advance) from sound.advance)).bind fun l sound => ?_
  refine (Steps.stops sound.settle).bind fun l sound => ?_
  split
  · exact (Steps.stops sound.between).bind fun l sound => sound.add trivial
  · exact (sound.within (sound.token _)).bind fun l sound => sound

/-- The tokens are of the text, but for one that tells what stops them. -/
theorem Sound.run (sound : l.Sound obstacle) (fuel : Nat) {failure : Failure}
    (member : .broken failure ∈ Lexer.run fuel l) : Stops obstacle failure := by
  induction fuel generalizing l with
  | zero => exact (sound.whole _ (List.mem_reverse.mp member)).elim
  | succ fuel ih =>
    have next := sound.step
    unfold Lexer.run at member
    cases stepped : l.step with
    | error stop =>
      rw [stepped] at next member
      rcases List.mem_append.mp member with before | last
      · exact (sound.whole _ (List.mem_of_mem_drop (List.mem_reverse.mp before))).elim
      · cases List.mem_singleton.mp last
        exact next
    | ok result =>
      obtain ⟨after, done⟩ := result
      rw [stepped] at next member
      cases done with
      | true => exact (Sound.whole next _ (List.mem_reverse.mp member)).elim
      | false => exact ih next member

end

end Lexer

/-- A document is stopped by flaws of its notation, or by what stands behind its text. -/
theorem Token.broken_ofSource {source : Source} {failure : Failure}
    (member : .broken failure ∈ Token.ofSource source) : Lexer.Stops source.obstacle failure :=
  Lexer.Sound.run ⟨List.forall_mem_nil _, rfl⟩ _ member

/-- Behind a text there is nothing, or a character that does not show; behind bytes that are no text it is
told that they are none. -/
theorem Source.obstacle_ofContent {content : Content} {failure : Failure}
    (stands : (Source.ofContent content).obstacle = some failure) :
    failure.OfDocument ∨ failure = .undecodable ∧ content.text? = none := by
  have visible (source : Source) (stands : source.visible.obstacle = some failure) :
      failure.OfDocument ∨ source.obstacle = some failure := by
    unfold Source.visible at stands
    dsimp only at stands
    split at stands
    · exact Or.inr stands
    · cases stands
      exact Or.inl trivial
  unfold Source.ofContent at stands
  split at stands
  next text content _ => exact Or.inl ((visible _ stands).resolve_right nofun)
  next data none =>
    rcases visible _ stands with flaw | same
    · exact Or.inl flaw
    · cases same
      exact Or.inr ⟨rfl, none⟩
  next content _ none =>
    cases stands
    exact Or.inr ⟨rfl, none⟩

end Yaml

end Rirekisho
