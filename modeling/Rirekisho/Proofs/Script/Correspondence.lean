import Mathlib.Data.List.Pairwise
import Rirekisho.Proofs.Drawing.Pointed
import Rirekisho.Proofs.Script.Polyline

namespace Rirekisho

/-- What the renderer takes for granted: a polyline has as many points as it says and at least one, and no face has
an empty name. -/
structure Directive.Sound {α : Type} (directive : Directive α) : Prop where
  points {count : Nat} {positions : List (Point α)} {options : LineOptions α} {close : Option Bool} :
    directive = .polyline count positions options close → positions.length = count ∧ 1 ≤ count
  face : ∀ font ∈ directive.font?, font.givenFace ≠ some ""

namespace Script

/-- The line is neither blank nor a comment. -/
def speaks (line : List Char) : Bool := decide (¬ (Text.strip line = [] ∨ (Text.strip line).head? = some '#'))

/-- The lines of a script that are neither blank nor comments, with their numbers. -/
def speakingLines (script : String) : List (List Char × Nat) :=
  ((Text.lines script.toList).zipIdx 1).filter fun (line, _) => speaks line

/-- The command is that of the line: it has its number and the kind that its first field says, and counts are the
integers that are written there. -/
structure StandsOn (entry : List Char × Nat) (command : Command Float) : Prop where
  line : command.line = some (entry.2 : Int)
  keyword : command.directive.keyword.name = firstWord entry.1
  own : readLine entry.2 entry.1 = .ok (some command)
  counts {i : Nat} {name : String} {n : Nat} : command.directive.row[i]? = some (name, .count n) →
    ∃ raw, (positional entry.1)[i]? = some raw ∧ Numeral.integer? Text.digitValue? raw = some (n : Int)

section
variable {keyword : Keyword} {fields : Fields} {directive : Directive Float}

theorem readDirective_filled (told : readDirective keyword fields = .ok directive) :
    Filled (specs keyword) fields.positional directive.row := by
  by_cases fixed : keyword = .polyline
  · subst fixed
    have judged := readPolyline_judged fields
    rw [show readPolyline fields = .ok directive from told] at judged
    obtain ⟨n, points, options, close, rfl, polyline⟩ := judged
    exact polyline.counts.filled
  · have judged := readDirective_judged fixed fields
    rw [told] at judged
    exact judged.2.1

theorem count_of_judge {kind : FieldKind} {raw : List Char} {n : Nat} (judged : kind.judge raw = .ok (.count n)) :
    Numeral.integer? Text.digitValue? raw = some (n : Int) := by
  cases kind with
  | count => exact integer?_of_judge judged
  | length =>
    simp only [FieldKind.judge] at judged
    split at judged <;> cases judged
  | text => cases judged

theorem face_of_chosen {last : String → Option (List Char)} {font : FontOptions Float}
    (chosen : Chosen [⟨"font_face", .face⟩, ⟨"font_size", .number⟩] last font.row) : font.givenFace ≠ some "" := by
  intro empty
  cases chosen with
  | cons first _ =>
    obtain ⟨-, said⟩ := first
    rw [empty] at said
    split at said
    next => cases said
    next raw given =>
      obtain ⟨value, judged, same⟩ := said
      cases same
      simp only [OptionKind.judge] at judged
      split at judged
      next => cases judged
      next some =>
        have none : String.ofList raw = "" := by
          injection Except.ok.inj judged
        exact some (String.ofList_eq_empty_iff.mp none)

/-- What has been read is sound. -/
theorem readDirective_sound (told : readDirective keyword fields = .ok directive) : directive.Sound := by
  by_cases fixed : keyword = .polyline
  · subst fixed
    have judged := readPolyline_judged fields
    rw [show readPolyline fields = .ok directive from told] at judged
    obtain ⟨n, points, options, close, rfl, polyline⟩ := judged
    refine ⟨?_, nofun⟩
    rintro _ _ _ _ ⟨⟩
    exact ⟨polyline.number, polyline.number ▸ List.length_pos_iff.mpr polyline.pointed⟩
  · have judged := readDirective_judged fixed fields
    rw [told] at judged
    obtain ⟨kind, -, chosen⟩ := judged
    constructor
    · rintro _ _ _ _ rfl
      exact absurd kind.symm fixed
    · cases directive with
      | string | textBox | history | educationExperience =>
        rintro font ⟨⟩
        cases kind
        exact face_of_chosen chosen
      | line | box | photo | newPage | multiLines | polyline | yearMonthBox | miscBox => exact nofun

end

section
variable {number : Nat} {line : List Char} {command : Command Float}

theorem speaks_of_readLine {found : Option (Command Float)} (told : readLine number line = .ok found) :
    speaks line = found.isSome := by
  unfold speaks
  simp only [readLine] at told
  by_cases passed : Text.strip line = [] ∨ (Text.strip line).head? = some '#'
  · rw [if_pos passed] at told
    cases told
    exact decide_eq_false (not_not_intro passed)
  · rw [if_neg passed] at told
    rw [decide_eq_true passed]
    split at told
    next => cases told
    next =>
      split at told <;> cases told
      rfl

theorem standsOn_of_readLine (own : readLine number line = .ok (some command)) :
    StandsOn (line, number) command where
  line := (readLine_some own).1
  keyword := (readLine_some own).2
  own := own
  counts {i name n} here := by
    have filled := readDirective_filled (readDirective_of_readLine own)
    have bound := (List.getElem?_eq_some_iff.mp here).1
    rw [filled.1] at bound
    obtain ⟨raw, value, there, judged, same⟩ := filled.2 i _ (List.getElem?_eq_getElem bound)
    cases here.symm.trans same
    exact ⟨raw, there, count_of_judge judged⟩

/-- Line by line: one that speaks is one command more, and the others are none. -/
theorem readLines_standsOn {lines : List (List Char)} {commands : List (Command Float)}
    (told : readLines number lines = .ok commands) :
    List.Forall₂ StandsOn ((lines.zipIdx number).filter fun (line, _) => speaks line) commands := by
  induction lines generalizing number commands with
  | nil =>
    cases told
    exact .nil
  | cons line rest ih =>
    obtain ⟨found, more, first, others, rfl⟩ := of_readLines_cons told
    have spoken := speaks_of_readLine first
    cases found with
    | none =>
      rw [List.zipIdx_cons, List.filter_cons_of_neg (by simp [spoken])]
      exact ih others
    | some command =>
      rw [List.zipIdx_cons, List.filter_cons_of_pos (by exact spoken)]
      exact .cons (standsOn_of_readLine first) (ih others)

end

theorem speakingLines_ordered (script : String) : (speakingLines script).Pairwise fun a b => a.2 < b.2 := by
  have all := List.pairwise_lt_range' (s := 1) (n := (Text.lines script.toList).length)
  rw [← List.zipIdx_map_snd, List.pairwise_map] at all
  exact all.filter _

/-- No line is lost and no command is made up: commands stand on the lines that are neither blank nor comments, one on
each, in their order and with growing numbers. All of them are sound, so that there are vertices for every polyline,
and that a sink need not do anything for lines without points. -/
theorem read_corresponds {script : String} {commands : List (Command Float)} (told : read script = .ok commands) :
    List.Forall₂ StandsOn (speakingLines script) commands ∧
    (commands.Pairwise fun earlier later => ∃ m n, earlier.line = some m ∧ later.line = some n ∧ m < n) ∧
    (∀ command ∈ commands, command.directive.Sound) ∧
    (∀ command ∈ commands, ∀ count positions options close,
      command.directive = .polyline count positions options close →
        ∀ offset, ∃ first rest, vertices positions offset = .ok (first :: rest)) ∧
    ∀ {σ : Type} (sink : Sink Float σ) (instead : Nat → Bool → LineOptions Float → Act σ Unit) (job : Job Float)
      (s : σ),
      (render (sink.withPointless instead) job commands).outcome s = (render sink job commands).outcome s := by
  have corresponds : List.Forall₂ StandsOn (speakingLines script) commands := readLines_standsOn told
  have sound : ∀ command ∈ commands, command.directive.Sound := by
    intro command member
    obtain ⟨earlier, line, later, _, own⟩ := readLine_of_mem told member
    exact readDirective_sound (readDirective_of_readLine own)
  refine ⟨corresponds, ?_, sound, ?_, fun sink instead job s => render_withPointless sink instead job commands s⟩
  · have numbers : commands.map Command.line = (speakingLines script).map fun entry => some (entry.2 : Int) := by
      rw [← List.forall₂_eq_eq_eq, List.forall₂_map_left_iff, List.forall₂_map_right_iff]
      exact corresponds.flip.imp fun _ _ stands => stands.line
    have ordered : (commands.map Command.line).Pairwise fun a b => ∃ m n, a = some m ∧ b = some n ∧ m < n := by
      rw [numbers, List.pairwise_map]
      exact (speakingLines_ordered script).imp fun later => ⟨_, _, rfl, rfl, Int.ofNat_lt.mpr later⟩
    exact List.pairwise_map.mp ordered
  · intro command member count positions options close same offset
    obtain ⟨number, pointed⟩ := (sound command member).points same
    exact vertices_of_some (List.length_pos_iff.mp (number ▸ pointed)) offset

/-- Two lines of four speak, and the last one is a polyline of a single point. -/
theorem read_corresponds_point :
    let script := "# points\n\n  new_page\nlines, 1, 0, 0,,\u2028"
    ∃ commands, read script = .ok commands ∧ commands.length = 2 ∧
      List.Forall₂ StandsOn (speakingLines script) commands ∧ ∀ command ∈ commands, command.directive.Sound := by
  intro script
  obtain ⟨commands, told⟩ : ∃ commands, read script = .ok commands := by
    unfold script
    exact ⟨_, rfl⟩
  have two : (speakingLines script).length = 2 := by decide
  obtain ⟨corresponds, -, sound, -⟩ := read_corresponds told
  exact ⟨commands, told, corresponds.length_eq ▸ two, corresponds, sound⟩

end Script

end Rirekisho
