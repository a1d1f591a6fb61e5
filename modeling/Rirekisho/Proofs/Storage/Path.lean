import Rirekisho.Proofs.Text.Line
import Rirekisho.Storage.Path

namespace Rirekisho.Path

/-- A name that stands in a path as it is. -/
def IsName (name : List Char) : Prop := (name ≠ [] ∧ name ≠ ['.']) ∧ '/' ∉ name

/-- Nothing is left out of the path when it is read. -/
def Plain (p : Path) : Prop := ∀ name ∈ p.names, IsName name.toList

theorem plain_ofText (s : String) : (ofText s).Plain := by
  intro name member
  obtain ⟨part, kept, rfl⟩ := List.mem_map.mp member
  obtain ⟨among, named⟩ := List.mem_filter.mp kept
  rw [String.toList_ofList]
  exact ⟨of_decide_eq_true named, (Text.mem_of_mem_split among).1⟩

section
variable {names : List String} (plain : ∀ name ∈ names, IsName name.toList)
include plain

theorem split_joined (some : names ≠ []) :
    Text.split '/' ("/".intercalate names).toList = names.map String.toList := by
  have joined : ("/".intercalate names).toList = ['/'].intercalate (names.map String.toList) :=
    String.toList_intercalate
  rw [joined, Text.split_intercalate (mt List.map_eq_nil_iff.mp some)]
  exact List.forall_mem_map.mpr fun name member => (plain name member).2

/-- Names that are joined with slashes do not begin with one. -/
theorem head?_joined : ("/".intercalate names).toList.head? ≠ some '/' := by
  intro slash
  obtain ⟨rest, begun⟩ := List.head?_eq_some_iff.mp slash
  cases names with
  | nil => cases begun
  | cons first later =>
    have parts := split_joined plain (List.cons_ne_nil first later)
    rw [begun, Text.split, if_pos rfl, List.map_cons, List.cons.injEq] at parts
    exact (plain first (List.mem_cons_self ..)).1.1 parts.1.symm

theorem names_ofText_joined : (ofText ("/".intercalate names)).names = names := by
  cases names with
  | nil => rfl
  | cons first rest =>
    have kept : ∀ part ∈ (first :: rest).map String.toList, decide (part ≠ [] ∧ part ≠ ['.']) = true :=
      List.forall_mem_map.mpr fun name member => decide_eq_true (plain name member).1
    rw [ofText, split_joined plain (List.cons_ne_nil first rest), List.filter_eq_self.mpr kept, List.map_map]
    exact (List.map_congr_left fun name _ => String.ofList_toList).trans (List.map_id _)

end

theorem anchorOf_text (anchor : Anchor) {cs : List Char} (head : cs.head? ≠ some '/') :
    anchorOf (anchor.text.toList ++ cs) = anchor := by
  cases cs with
  | nil => cases anchor <;> rfl
  | cons c rest =>
    have other : c ≠ '/' := fun same => head (congrArg some same)
    cases anchor <;> simp [anchorOf, Anchor.text, other]

/-- A path is the one that its text is read as. -/
theorem ofText_text {p : Path} (plain : p.Plain) : ofText p.text = p := by
  obtain ⟨anchor, names⟩ := p
  have written (text : String) (same : text = anchor.text ++ "/".intercalate names) :
      ofText text = ⟨anchor, names⟩ := by
    have anchored : anchorOf text.toList = anchor := by
      rw [same, String.toList_append]
      exact anchorOf_text anchor (head?_joined plain)
    have named : (ofText text).names = (ofText ("/".intercalate names)).names := by
      -- The slashes of the anchor come to empty names before the first one.
      rw [same, ofText, ofText, String.toList_append]
      cases anchor <;> rfl
    exact congrArg₂ Path.mk anchored (named.trans (names_ofText_joined plain))
  cases anchor with
  | here =>
    cases names with
    | nil => decide +kernel
    | cons first rest => exact written _ rfl
  | root => exact written _ rfl
  | secondRoot => exact written _ rfl

end Rirekisho.Path
