import Mathlib.Data.List.ReduceOption
import Rirekisho.Proofs.Outcome

namespace Rirekisho

variable {β ε : Type}

namespace Located

/-- The error with its place filled in by several calls, one after the other. -/
def locateAll (e : Located ε) (calls : List (Option Int × Option String)) : Located ε :=
  calls.foldl (fun e call => e.locate call.1 call.2) e

/-- What each of the calls returns. -/
def returned (e : Located ε) : List (Option Int × Option String) → List (Located ε)
  | [] => []
  | call :: rest => e.locate call.1 call.2 :: (e.locate call.1 call.2).returned rest

theorem locate_locate (e : Located ε) (line other : Option Int) (keyword word : Option String) :
    (e.locate line keyword).locate other word = e.locate (line.or other) (keyword.or word) := by
  simp only [locate, Option.or_assoc]

theorem findSome?_id_cons (value : Option β) (rest : List (Option β)) :
    (value :: rest).findSome? id = value.or (rest.findSome? id) := by
  cases value <;> rfl

/-- Calls come to a single one with the first line and the first keyword among them. -/
theorem locateAll_eq (e : Located ε) (calls : List (Option Int × Option String)) :
    e.locateAll calls = e.locate ((calls.map (·.1)).findSome? id) ((calls.map (·.2)).findSome? id) := by
  induction calls generalizing e with
  | nil => simp [locateAll, locate]
  | cons call rest ih =>
    have step : e.locateAll (call :: rest) = (e.locate call.1 call.2).locateAll rest := rfl
    rw [step, ih, locate_locate, List.map_cons, List.map_cons, findSome?_id_cons, findSome?_id_cons]

/-- A call returns the error as this call and those before it have left it. -/
theorem getElem?_returned (e : Located ε) {calls : List (Option Int × Option String)} {k : Nat}
    (among : k < calls.length) : (e.returned calls)[k]? = some (e.locateAll (calls.take (k + 1))) := by
  induction calls generalizing e k with
  | nil => exact absurd among (Nat.not_lt_zero k)
  | cons call rest ih =>
    cases k with
    | zero => rfl
    | succ k =>
      have later := ih (e.locate call.1 call.2) (Nat.lt_of_succ_lt_succ among)
      rw [returned, List.getElem?_cons_succ, later]
      rfl

/-- The words for a place in their order, each if there is something for it to say. -/
def placeWords (line : Option Int) (keyword field : Option String) : List String :=
  [line.map fun n => "第" ++ Numeral.integerText n ++ "行",
    (keyword.filter (· ≠ "")).map ("命令 " ++ ·), (field.filter (· ≠ "")).map ("字段 " ++ ·)].reduceOption

/-- What stands before a message. -/
def heading (words : List String) : String := if words = [] then "" else ", ".intercalate words ++ ": "

theorem mark_eq (label : String) (word : Option String) :
    mark label word = ((word.filter (· ≠ "")).map (label ++ ·)).toList := by
  unfold mark
  split
  next => rfl
  next => rfl
  next word given =>
    have shown : decide (word ≠ "") = true := decide_eq_true given
    rw [Option.filter, if_pos shown]
    rfl

theorem marks_eq (e : Located ε) : e.marks = placeWords e.line e.keyword e.field := by
  have joined (first second third : Option String) :
      [first, second, third].reduceOption = first.toList ++ second.toList ++ third.toList := by
    cases first <;> cases second <;> cases third <;> rfl
  rw [marks, mark_eq, mark_eq, placeWords, joined]
  cases e.line <;> rfl

theorem text_eq (describe : ε → String) (e : Located ε) :
    e.text describe = heading (placeWords e.line e.keyword e.field) ++ describe e.cause := by
  rw [text, marks_eq]
  cases placeWords e.line e.keyword e.field with
  | nil => exact String.empty_append.symm
  | cons word rest => rfl

/-- However often the place of an error is filled in, the first line that is given stays, and so does the first
keyword, whichever of them come together. The cause and the field are what they were, every call returns the error
as it then is, and its words show what is known of the place before the message. -/
theorem locateAll_first (describe : ε → String) (e : Located ε) (calls : List (Option Int × Option String)) :
    let line := (e.line :: calls.map (·.1)).findSome? id
    let keyword := (e.keyword :: calls.map (·.2)).findSome? id
    (e.locateAll calls).line = line ∧ (e.locateAll calls).keyword = keyword ∧
      (e.locateAll calls).cause = e.cause ∧ (e.locateAll calls).field = e.field ∧
      (∀ k < calls.length, (e.returned calls)[k]? = some (e.locateAll (calls.take (k + 1)))) ∧
      (e.locateAll calls).text describe = heading (placeWords line keyword e.field) ++ describe e.cause := by
  intro line keyword
  have whole : e.locateAll calls = ⟨e.cause, line, keyword, e.field⟩ := by
    rw [locateAll_eq, locate, ← findSome?_id_cons, ← findSome?_id_cons]
  have words := text_eq describe (e.locateAll calls)
  rw [whole] at words ⊢
  exact ⟨rfl, rfl, rfl, rfl, fun k => e.getElem?_returned, words⟩

example : (⟨"m", none, some "", none⟩ : Located String).locateAll
    [(none, some "line"), (some 0, none), (some 4, none)] = ⟨"m", some 0, some "", none⟩ := by decide

end Located

end Rirekisho
