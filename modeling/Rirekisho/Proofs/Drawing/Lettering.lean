import Rirekisho.Proofs.Drawing.Layout
import Rirekisho.Proofs.Drawing.Named

namespace Rirekisho

/-- What a value of a script means as a text: itself, if it does not begin with a dollar sign, or the text of the
record whose name follows the sign, as it stands there. -/
inductive Record.Means (record : Record) : String → String → Prop
  | literal {value : String} : value.toList.head? ≠ some '$' → Means record value value
  | field (field : TextField) : Means record ("$" ++ field.label) (record.text field)

theorem Variable.text?_ofText (field : TextField) : text? (ofText field) = some field := by
  cases field <;> rfl

theorem Variable.isVariable_iff {value : String} : isVariable value ↔ value.toList.head? = some '$' := by
  rw [isVariable, beq_iff_eq]

/-- A value is resolved to what it means, and there is no other one that can be resolved. -/
theorem Record.resolveText_iff {record : Record} {value text : String} :
    record.resolveText value = .ok text ↔ record.Means value text := by
  constructor
  · intro resolved
    unfold resolveText at resolved
    split at resolved
    next =>
      split at resolved
      next field found =>
        cases resolved
        rw [Variable.text?_some found]
        exact .field field
      next => split at resolved <;> cases resolved
    next plain =>
      cases resolved
      exact .literal (mt Variable.isVariable_iff.mpr plain)
  · rintro (plain | field)
    · exact if_neg (mt Variable.isVariable_iff.mp plain)
    · have sigil : Variable.isVariable ("$" ++ field.label) :=
        Variable.isVariable_iff.mpr (by rw [String.toList_append]; rfl)
      have found : Variable.text? ("$" ++ field.label) = some field := Variable.text?_ofText field
      exact (if_pos sigil).trans (by rw [found])

theorem length_textLines (value : String) : (textLines value).length = value.toList.count '\n' + 1 := by
  rw [textLines, List.length_map, Text.length_split]

variable {α : Type} [Scalar α]

/-- The calls for a block are as many as its lines, and each draws one of them at its height. -/
theorem Block.getElem?_calls {job : Job α} {page : Nat} {font : FontOptions α} {block : Block α} {i : Nat}
    {call : Call α} (here : (block.calls job page font)[i]? = some call) :
    ∃ part, call = .text page part
      ⟨block.place.x + job.margin, block.place.y + job.margin - font.lineHeight * Scalar.ofNat (i + 1)⟩
      font.face font.size := by
  rw [calls, List.getElem?_map, List.getElem?_zipIdx, Option.map_map] at here
  obtain ⟨part, -, rfl⟩ := Option.map_eq_some_iff.mp here
  exact ⟨part, by simp only [Function.comp, Nat.zero_add]⟩

variable (answers : Answers α) {job : Job α} {font : FontOptions α}

/-- A text in a registered face is drawn line by line on the page, with nothing in between, and the commands after it
go on from there: the lines joined again are the text, which is what the value means, and each stands a line height
below the one before. -/
theorem draw_string (registered : font.face ∈ job.fonts.names) (page : Nat) (line : Option Int) (position : Point α)
    (value : String) (r : Recording α) :
    let command : Command α := ⟨line, .string position value font⟩
    let size := font.givenSize.getD 12.0
    (∀ text, job.record.resolveText value = .ok text ↔ job.record.Means value text) ∧
      ∀ text, job.record.Means value text → ∃ calls : List (Call α),
        (command.draw (.recording answers) job page).outcome r = (.ok page, r.addAll calls) ∧
        (∀ after, (drawAll (.recording answers) job page (command :: after)).outcome r =
          (drawAll (.recording answers) job page after).outcome (r.addAll calls)) ∧
        calls.length = text.toList.count '\n' + 1 ∧
        "\n".intercalate (calls.filterMap Call.text?) = text ∧
        ∀ (i : Nat) (call : Call α), calls[i]? = some call → ∃ part, call = .text page part
          ⟨position.x + job.margin, position.y + job.margin - size * 25.4 / 72.0 * Scalar.ofNat (i + 1)⟩
          (font.givenFace.getD "mincho") size := by
  intro command size
  refine ⟨fun text => Record.resolveText_iff, fun text means => ?_⟩
  let block : Block α := ⟨position, text⟩
  have made : (command.draw (.recording answers) job page).Makes page (block.calls job page font) := by
    refine .located _ _ ?_
    rw [Directive.draw, Record.resolveText_iff.mpr means]
    exact (placeText_makes answers registered page block).turn page
  refine ⟨block.calls job page font, made r, fun after => Act.outcome_bind_ok (made r) _, ?_,
    block.drawn_eq job page font, fun i call here => block.getElem?_calls here⟩
  rw [Block.calls, List.length_map, List.length_zipIdx, length_textLines]

/-- A name that looks like a variable stays as it is, and an empty line of it is drawn too. -/
theorem draw_string_name :
    let record : Record :=
      ⟨fun field => if field = .name then "$email\n\nb" else "", Path.ofText "photo.jpg", fun _ => []⟩
    let job : Job Rat := ⟨record, ⟨[("mincho", Path.ofText "a.ttf")]⟩, 5, Path.ofText "photo.jpg"⟩
    let command : Command Rat := ⟨some 3, .string ⟨10, 100⟩ "$name" {}⟩
    "mincho" ∈ job.fonts.names ∧ record.Means "$name" "$email\n\nb" ∧ ∃ calls : List (Call Rat),
      (command.draw (recorder ⟨40, 30⟩) job 1).outcome {} = (.ok 1, Recording.addAll {} calls) ∧
        calls.length = 3 ∧ "\n".intercalate (calls.filterMap Call.text?) = "$email\n\nb" := by
  intro record job command
  have registered : ({} : FontOptions Rat).face ∈ job.fonts.names := List.mem_cons_self ..
  have means : record.Means "$name" "$email\n\nb" := .field .name
  have drawn := (draw_string (.usual ⟨40, 30⟩) registered 1 (some 3) ⟨10, 100⟩ "$name" {}).2 _ means
  obtain ⟨calls, outcome, -, length, joined, -⟩ := drawn
  exact ⟨registered, means, calls, outcome, length, joined⟩

end Rirekisho
