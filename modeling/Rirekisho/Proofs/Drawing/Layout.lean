import Rirekisho.Proofs.Drawing.Recording
import Rirekisho.Proofs.Text.Line

namespace Rirekisho

variable {α β γ : Type}

namespace Recording

/-- The recording with further calls, the first one first. -/
def addAll (r : Recording α) (calls : List (Call α)) : Recording α := { r with calls := calls.reverse ++ r.calls }

theorem addAll_addAll (r : Recording α) (first second : List (Call α)) :
    (r.addAll first).addAll second = r.addAll (first ++ second) := by
  simp only [addAll, List.reverse_append, List.append_assoc]

end Recording

/-- From every recording on, the computation has the result and adds the calls, and nothing else. -/
def Act.Makes (act : Act (Recording α) β) (x : β) (calls : List (Call α)) : Prop :=
  ∀ r, act.outcome r = (.ok x, r.addAll calls)

namespace Act.Makes

variable {x : β} {first second : List (Call α)} {act : Act (Recording α) β}

theorem pure (x : β) : (Pure.pure x : Act (Recording α) β).Makes x [] := fun _ => rfl

theorem bind {y : γ} {next : β → Act (Recording α) γ} (begun : act.Makes x first) (ended : (next x).Makes y second) :
    (act >>= next).Makes y (first ++ second) := by
  intro r
  rw [outcome_bind_ok (begun r), ended, Recording.addAll_addAll]

/-- What is made does not change when only the result does. -/
theorem turn (made : act.Makes x first) (y : γ) : (act >>= fun _ => Pure.pure y).Makes y first := by
  have ended : (act >>= fun _ => Pure.pure y).Makes y (first ++ []) := made.bind (.pure y)
  rwa [List.append_nil] at ended

theorem forM {ι : Type} {f : ι → Act (Recording α) PUnit} {calls : ι → List (Call α)} (xs : List ι)
    (each : ∀ x ∈ xs, (f x).Makes ⟨⟩ (calls x)) : (xs.forM f).Makes ⟨⟩ (xs.flatMap calls) := by
  induction xs with
  | nil => exact .pure PUnit.unit
  | cons x xs ih =>
    have here := each x (List.mem_cons_self ..)
    exact here.bind (ih fun y member => each y (List.mem_cons_of_mem _ member))

theorem located (line : Option Int) (keyword : Option String) (made : act.Makes x first) :
    (act.located line keyword).Makes x first := by
  intro r
  rw [outcome_located, made]
  rfl

end Act.Makes

/-- A text, and the place in the script that it begins at. -/
structure Block (α : Type) where
  place : Point α
  text : String

/-- The text that a call draws. -/
def Call.text? : Call α → Option String
  | .text _ line .. => some line
  | _ => none

variable [Scalar α]

namespace Block

/-- The calls that draw a block: the margin is added to its place, and each line stands one line height below
the one before. -/
def calls (job : Job α) (page : Nat) (font : FontOptions α) (block : Block α) : List (Call α) :=
  (textLines block.text).zipIdx.map fun (line, number) =>
    .text page line
      ⟨block.place.x + job.margin, block.place.y + job.margin - font.lineHeight * Scalar.ofNat (number + 1)⟩
      font.face font.size

/-- The lines that are drawn for a block, joined again. -/
def drawn (job : Job α) (page : Nat) (font : FontOptions α) (block : Block α) : String :=
  "\n".intercalate ((block.calls job page font).filterMap Call.text?)

end Block

theorem intercalate_textLines (value : String) : "\n".intercalate (textLines value) = value := by
  apply String.toList_inj.mp
  rw [String.toList_intercalate, textLines, List.map_map]
  have same : String.toList ∘ String.ofList = id := funext fun _ => String.toList_ofList
  rw [same, List.map_id]
  rw [Text.split_eq_splitOn]
  exact List.intercalate_splitOn '\n'

variable (answers : Answers α) {job : Job α} {font : FontOptions α}

theorem Block.drawn_eq (job : Job α) (page : Nat) (font : FontOptions α) (block : Block α) :
    block.drawn job page font = block.text := by
  have texts : (block.calls job page font).filterMap Call.text? = textLines block.text := by
    rw [calls, List.filterMap_map]
    have same : (Call.text? ∘ fun (entry : String × Nat) => Call.text page entry.1
        ⟨block.place.x + job.margin, block.place.y + job.margin - font.lineHeight * Scalar.ofNat (entry.2 + 1)⟩
        font.face font.size) = some ∘ Prod.fst := rfl
    rw [same, List.filterMap_eq_map, List.zipIdx_map_fst]
  rw [drawn, texts, intercalate_textLines]

theorem FontRegistry.resolve_of_mem {fonts : FontRegistry} {face : String} (registered : face ∈ fonts.names) :
    fonts.resolve face = .ok face := if_pos registered

theorem placeText_makes (registered : font.face ∈ job.fonts.names) (page : Nat) (block : Block α) :
    (placeText (.recording answers) job page block.place block.text font).Makes () (block.calls job page font) := by
  unfold placeText
  rw [FontRegistry.resolve_of_mem registered, Block.calls, List.map_eq_flatMap]
  exact .forM _ fun _ _ _ => rfl

end Rirekisho
