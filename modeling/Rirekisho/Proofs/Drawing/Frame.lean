import Mathlib.Algebra.Field.Rat
import Mathlib.Tactic.Ring
import Rirekisho.Proofs.Drawing.Lettering

namespace Rirekisho

section
variable {α : Type} [Scalar α]

/-- The lines of a text in a frame that hangs from a corner, each with the place that it begins at. -/
def framed (width : String → α) (lineHeight : α) (topLeft : Point α) (size : Size α) (text : String) :
    List (String × Point α) :=
  let middle := topLeft.x + size.width / 2.0
  let top := topLeft.y - size.height / 2.0 + lineHeight * Scalar.ofNat (textLines text).length / 2.0
  (textLines text).zipIdx.map fun (part, number) =>
    (part, ⟨middle - width part / 2.0, baseline top lineHeight number⟩)

/-- The calls for lines and their places: each line is measured before it is drawn. -/
def measuredCalls (page : Nat) (font : FontOptions α) (lines : List (String × Point α)) : List (Call α) :=
  lines.flatMap fun (part, place) =>
    [.stringWidth part font.face font.size, .text page part place font.face font.size]

section
variable {width : String → α} {lineHeight : α} {topLeft : Point α} {size : Size α} {text : String}

theorem framed_texts : (framed width lineHeight topLeft size text).map Prod.fst = textLines text := by
  rw [framed, List.map_map]
  exact List.zipIdx_map_fst 0 (textLines text)

theorem length_framed : (framed width lineHeight topLeft size text).length = (textLines text).length := by
  rw [framed, List.length_map, List.length_zipIdx]

theorem getElem?_framed {i : Nat} {line : String × Point α}
    (here : (framed width lineHeight topLeft size text)[i]? = some line) :
    line.2 = ⟨topLeft.x + size.width / 2.0 - width line.1 / 2.0,
      baseline (topLeft.y - size.height / 2.0 + lineHeight * Scalar.ofNat (textLines text).length / 2.0)
        lineHeight i⟩ := by
  rw [framed, List.getElem?_map, List.getElem?_zipIdx, Option.map_map] at here
  obtain ⟨part, -, rfl⟩ := Option.map_eq_some_iff.mp here
  simp only [Function.comp, Nat.zero_add]

end

/-- To measure a line is not to draw it. -/
theorem measuredCalls_draws (page : Nat) (font : FontOptions α) (lines : List (String × Point α)) :
    (measuredCalls page font lines).filter Call.draws =
      lines.map fun (part, place) => .text page part place font.face font.size := by
  rw [measuredCalls, List.filter_flatMap, List.map_eq_flatMap]
  rfl

theorem drawTextBox_makes {job : Job α} {font : FontOptions α} (registered : font.face ∈ job.fonts.names)
    (width : String → String → α → α) (natural : Path → Except (Located Fault) (Size α)) (page : Nat)
    (position : Point α) (size : Size α) {value text : String} (means : job.record.Means value text) :
    (drawTextBox (.recording (.measuring width natural)) job page position size value font).Makes ()
      (.polyline page (frameCorners (job.toPage position) size) true {} ::
        measuredCalls page font
          (framed (width · font.face font.size) font.lineHeight (job.toPage position) size text)) := by
  unfold drawTextBox
  rw [Record.resolveText_iff.mpr means, FontRegistry.resolve_of_mem registered]
  simp only [Act.ofFault_ok, pure_bind]
  have frame : ((Sink.recording (Answers.measuring width natural)).drawPolyline page
      (frameCorners (job.toPage position) size) true {}).Makes ()
      [.polyline page (frameCorners (job.toPage position) size) true {}] := fun _ => rfl
  rw [← List.singleton_append, measuredCalls, framed, List.flatMap_map]
  exact frame.bind (.forM _ fun _ _ _ => rfl)

end

/-- The height of a base line as a number. -/
theorem baseline_rat (top lineHeight : Rat) (number : Nat) :
    baseline top lineHeight number = top - lineHeight * (number + 1) := by
  have count : (Scalar.ofNat (number + 1) : Rat) = (number : Rat) + 1 := Nat.cast_succ number
  rw [baseline, count]

theorem half_rat (x : Rat) : x / 2.0 = x / 2 := by
  have two : (2.0 : Rat) = 2 := by decide +kernel
  rw [two]

section
variable {width : String → Rat} {lineHeight : Rat} {topLeft : Point Rat} {size : Size Rat} {text : String}

/-- Without rounding, the middle of each line is that of the frame. -/
theorem framed_middle {line : String × Point Rat} (member : line ∈ framed width lineHeight topLeft size text) :
    line.2.x + width line.1 / 2 = topLeft.x + size.width / 2 := by
  obtain ⟨i, here⟩ := List.mem_iff_getElem?.mp member
  rw [getElem?_framed here]
  simp only [half_rat]
  ring

/-- Each line stands a line height below the one before. -/
theorem framed_step {i : Nat} {line next : String × Point Rat}
    (here : (framed width lineHeight topLeft size text)[i]? = some line)
    (there : (framed width lineHeight topLeft size text)[i + 1]? = some next) :
    line.2.y - next.2.y = lineHeight := by
  rw [getElem?_framed here, getElem?_framed there, baseline_rat, baseline_rat, Nat.cast_succ]
  simp only [half_rat]
  ring

/-- The upper edge of the first line and the base line of the last one lie as far from the middle of the frame. -/
theorem framed_balance {first last : String × Point Rat}
    (begun : first ∈ (framed width lineHeight topLeft size text).head?)
    (ended : last ∈ (framed width lineHeight topLeft size text).getLast?) :
    first.2.y + lineHeight - (topLeft.y - size.height / 2) = topLeft.y - size.height / 2 - last.2.y := by
  rw [List.head?_eq_getElem?] at begun
  rw [List.getLast?_eq_getElem?, length_framed] at ended
  have some : 0 < (textLines text).length := by
    rw [length_textLines]
    exact Nat.succ_pos _
  have count : (Scalar.ofNat (textLines text).length : Rat) = ((textLines text).length - 1 : Nat) + 1 := by
    rw [← Nat.cast_succ, Nat.succ_eq_add_one, Nat.sub_add_cancel some]
    rfl
  rw [getElem?_framed begun, getElem?_framed ended, baseline_rat, baseline_rat, count]
  simp only [half_rat, Nat.cast_zero]
  ring

end

/-- A text box in a registered face is a closed frame that hangs from its place, with the usual lines, and then the
text, line by line. However wide the sink says that the lines are, the middle of each is that of the frame, and what
is free above the first one is as high as what is free below the last one. -/
theorem draw_textBox {job : Job Rat} {font : FontOptions Rat} (registered : font.face ∈ job.fonts.names)
    (width : String → String → Rat → Rat) (natural : Path → Except (Located Fault) (Size Rat)) (page : Nat)
    (line : Option Int) (position : Point Rat) (size : Size Rat) (value : String) (r : Recording Rat) :
    let command : Command Rat := ⟨line, .textBox position size value font⟩
    let sink : Sink Rat (Recording Rat) := .recording (.measuring width natural)
    let left := position.x + job.margin
    let top := position.y + job.margin
    let face := font.givenFace.getD "mincho"
    let points := font.givenSize.getD 12.0
    let lineHeight := points * 25.4 / 72.0
    (∀ text, job.record.resolveText value = .ok text ↔ job.record.Means value text) ∧
      ∀ text, job.record.Means value text → ∃ lines : List (String × Point Rat),
        let frame : Call Rat := .polyline page
          [⟨left, top - size.height⟩, ⟨left + size.width, top - size.height⟩, ⟨left + size.width, top⟩, ⟨left, top⟩]
          true {}
        let calls := frame :: lines.flatMap fun (part, place) =>
          [.stringWidth part face points, .text page part place face points]
        (command.draw sink job page).outcome r = (.ok page, r.addAll calls) ∧
        (∀ after, (drawAll sink job page (command :: after)).outcome r =
          (drawAll sink job page after).outcome (r.addAll calls)) ∧
        calls.filter Call.draws = frame :: lines.map (fun (part, place) => .text page part place face points) ∧
        lines.length = text.toList.count '\n' + 1 ∧
        "\n".intercalate (lines.map Prod.fst) = text ∧
        (∀ line ∈ lines, line.2.x + width line.1 face points / 2 = left + size.width / 2) ∧
        (∀ (i : Nat) line next, lines[i]? = some line → lines[i + 1]? = some next →
          line.2.y - next.2.y = lineHeight) ∧
        ∀ first ∈ lines.head?, ∀ last ∈ lines.getLast?,
          first.2.y + lineHeight - (top - size.height / 2) = top - size.height / 2 - last.2.y := by
  intro command sink left top face points lineHeight
  refine ⟨fun text => Record.resolveText_iff, fun text means => ?_⟩
  let lines := framed (width · face points) font.lineHeight (job.toPage position) size text
  have made := ((drawTextBox_makes registered width natural page position size means).turn page).located line
    (some "textbox")
  refine ⟨lines, made r, fun after => Act.outcome_bind_ok (made r) _, ?_, ?_, ?_, fun _ => framed_middle,
    fun _ _ _ => framed_step, fun _ begun _ ended => framed_balance begun ended⟩
  · exact congrArg _ (measuredCalls_draws page font lines)
  · rw [length_framed, length_textLines]
  · rw [framed_texts, intercalate_textLines]

/-- Three lines, the second of which is empty, on a page with a margin. -/
theorem draw_textBox_name :
    let record : Record :=
      ⟨fun field => if field = .name then "abc\n\nd" else "", Path.ofText "photo.jpg", fun _ => []⟩
    let job : Job Rat := ⟨record, ⟨[("mincho", Path.ofText "a.ttf")]⟩, 5, Path.ofText "photo.jpg"⟩
    let width (part _ : String) (_ : Rat) : Rat := 4 * part.length
    let sink : Sink Rat (Recording Rat) := .recording (.measuring width fun _ => .ok ⟨40, 30⟩)
    let command : Command Rat := ⟨some 3, .textBox ⟨10, 100⟩ ⟨40, 20⟩ "$name" {}⟩
    "mincho" ∈ job.fonts.names ∧ record.Means "$name" "abc\n\nd" ∧
      ∃ (calls : List (Call Rat)) (lines : List (String × Point Rat)),
        (command.draw sink job 1).outcome {} = (.ok 1, Recording.addAll {} calls) ∧
        calls.filter Call.draws = .polyline 1 [⟨15, 85⟩, ⟨55, 85⟩, ⟨55, 105⟩, ⟨15, 105⟩] true {} ::
          lines.map (fun (part, place) => .text 1 part place "mincho" 12.0) ∧
        lines.length = 3 ∧ "\n".intercalate (lines.map Prod.fst) = "abc\n\nd" ∧
        ∀ line ∈ lines, line.2.x + 4 * line.1.length / 2 = 35 := by
  intro record job width sink command
  have registered : ({} : FontOptions Rat).face ∈ job.fonts.names := List.mem_cons_self ..
  have means : record.Means "$name" "abc\n\nd" := .field .name
  have drawn := draw_textBox registered width (fun _ => .ok ⟨40, 30⟩) 1 (some 3) ⟨10, 100⟩ ⟨40, 20⟩ "$name" {}
  obtain ⟨lines, outcome, -, shown, length, joined, middle, -⟩ := drawn.2 _ means
  have corners : [⟨10 + 5, 100 + 5 - 20⟩, ⟨10 + 5 + 40, 100 + 5 - 20⟩, ⟨10 + 5 + 40, 100 + 5⟩, ⟨10 + 5, 100 + 5⟩] =
      ([⟨15, 85⟩, ⟨55, 85⟩, ⟨55, 105⟩, ⟨15, 105⟩] : List (Point Rat)) := by decide +kernel
  have half : (10 + 5 + 40 / 2 : Rat) = 35 := by decide +kernel
  refine ⟨registered, means, _, lines, outcome, ?_, length, joined, fun line member => ?_⟩
  · rw [shown, corners]
    rfl
  · exact (middle line member).trans half

end Rirekisho
