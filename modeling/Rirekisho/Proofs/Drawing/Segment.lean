import Rirekisho.Proofs.Drawing.Layout
import Rirekisho.Proofs.Script.Points
import Rirekisho.Proofs.Script.Written

namespace Rirekisho

section
variable {α σ : Type} [Scalar α]

/-- Commands whose directives are drawn in the same way are rendered in the same way. What is told when the drawing
fails names their keywords, which may be different. -/
theorem render_singleton_congr (sink : Sink α σ) (job : Job α) {command other : Command α}
    (same : ∀ page, other.directive.draw sink job page = command.directive.draw sink job page) (s : σ) :
    let rendered := (render sink job [command]).outcome s
    let again := (render sink job [other]).outcome s
    again.2 = rendered.2 ∧ again.1.toOption = rendered.1.toOption := by
  simp only [render, drawAll_singleton, Command.draw, Act.outcome_bind, Act.outcome_located, same,
    List.length_singleton]
  cases sink.newPage.outcome s with
  | mk opened t =>
    cases opened with
    | error failure => exact ⟨rfl, rfl⟩
    | ok page =>
      dsimp only
      cases (command.directive.draw sink job page).outcome t with
      | mk drawn u => cases drawn <;> exact ⟨rfl, rfl⟩

/-- The margin is added to the start of a line, and its end is a way from there. -/
theorem render_segment (answers : Answers α) (job : Job α) (line : Option Int) (start way : Point α)
    (options : LineOptions α) (r : Recording α) :
    (render (.recording answers) job [⟨line, .line start way options⟩]).outcome r =
      (.ok (), { r.opened.addAll
        [.polyline (r.pages + 1) [job.toPage start, job.toPage start + way] false options] with
        reports := .rendered 1 :: r.reports }) :=
  rfl

end

namespace Script

section
variable {fields : Fields} {a b c d : List Char} {directive : Directive Float}

theorem length?_nil : length? [] = none := rfl

/-- No coordinate is left out when there are just as many fields as coordinates. -/
theorem places_coordinates_iff {fields : List (List Char)} {points : List (Point Float)}
    (full : fields.tail.length = 2 * points.length) :
    Places (coordinates fields) points ↔ Places fields.tail points := by
  have whole : coordinates fields = fields.tail ∨ ¬ Places (coordinates fields) points := by
    by_cases short : (coordinates fields).length = fields.tail.length
    · exact Or.inl ((List.rdropWhile_prefix List.isEmpty fields.tail).eq_of_length short)
    · exact Or.inr fun places => short (places.1.trans full.symm)
  constructor
  · intro places
    rwa [← whole.resolve_right (not_not_intro places)]
  · intro places
    -- the last field is a length, and no empty field is one
    have kept : coordinates fields = fields.tail := by
      refine List.rdropWhile_eq_self_iff.mpr fun some empty => ?_
      have measured := places.measured _ (List.getLast_mem some)
      rw [List.isEmpty_iff.mp empty, length?_nil] at measured
      cases measured
    rwa [kept]

theorem readRow_length_eq_ok {name : String} {rest : List FieldSpec} {raw : List Char} {more : List (List Char)}
    {x : Float} {others : Row rest} :
    readRow (lengthField name :: rest) (raw :: more) = .ok (x, others) ↔
      length? raw = some x ∧ readRow rest more = .ok others := by
  simp only [readRow, lengthField, FieldKind.read, readLength]
  cases length? raw with
  | none =>
    constructor
    · rintro ⟨⟩
    · rintro ⟨⟨⟩, -⟩
  | some measured =>
    cases readRow rest more with
    | error e =>
      constructor
      · rintro ⟨⟩
      · rintro ⟨-, ⟨⟩⟩
    | ok values =>
      constructor
      · rintro ⟨⟩
        exact ⟨rfl, rfl⟩
      · rintro ⟨⟨⟩, ⟨⟩⟩
        rfl

/-- Four fields are a line when they are lengths, two for its start and two for its way. -/
theorem readRow_line_eq_ok {x y dx dy : Float} :
    readRow (specs .line) [a, b, c, d] = .ok (x, y, dx, dy, ()) ↔
      Places [a, b, c, d] [⟨x, y⟩, ⟨dx, dy⟩] := by
  constructor
  · intro row
    obtain ⟨across, row⟩ := readRow_length_eq_ok.mp row
    obtain ⟨up, row⟩ := readRow_length_eq_ok.mp row
    obtain ⟨further, row⟩ := readRow_length_eq_ok.mp row
    obtain ⟨higher, -⟩ := readRow_length_eq_ok.mp row
    exact .cons across up (.cons further higher .nil)
  · intro places
    obtain ⟨_, _, ⟨⟩, across, ⟨⟩, up⟩ := places.2 0 _ rfl
    obtain ⟨_, _, ⟨⟩, further, ⟨⟩, higher⟩ := places.2 1 _ rfl
    refine readRow_length_eq_ok.mpr ⟨across, ?_⟩
    refine readRow_length_eq_ok.mpr ⟨up, ?_⟩
    refine readRow_length_eq_ok.mpr ⟨further, ?_⟩
    exact readRow_length_eq_ok.mpr ⟨higher, rfl⟩

theorem readDirective_line_eq_ok (four : fields.positional = [a, b, c, d]) :
    readDirective .line fields = .ok directive ↔ ∃ start way options,
      directive = .line start way options ∧ Places [a, b, c, d] [start, way] ∧ fields.line = .ok options := by
  rw [readDirective_eq (by decide), four]
  simp only [result_bind_eq_ok]
  constructor
  · rintro ⟨⟨x, y, dx, dy, ⟨⟩⟩, row, options, chosen, ⟨⟩⟩
    exact ⟨⟨x, y⟩, ⟨dx, dy⟩, options, rfl, readRow_line_eq_ok.mp row, chosen⟩
  · rintro ⟨start, way, options, rfl, places, chosen⟩
    exact ⟨_, readRow_line_eq_ok.mpr places, options, chosen, rfl⟩

/-- The same fields behind the number two are an open polyline, when that is what is said last. -/
theorem readDirective_polyline_eq_ok (five : fields.positional = [['2'], a, b, c, d])
    (said : fields.last? "close" = some "false".toList) :
    readDirective .polyline fields = .ok directive ↔ ∃ start way options,
      directive = .polyline 2 [start, way] options (some false) ∧ Places [a, b, c, d] [start, way] ∧
        fields.line = .ok options := by
  have two : Counts fields.positional 2 := ⟨['2'], by rw [five]; rfl, by decide⟩
  have opened : fields.close = .ok (some false) := by
    rw [Fields.close, Fields.option, said]
    rfl
  have shape {options : LineOptions Float} {close : Option Bool} :
      readShape fields = .ok (options, close) ↔ fields.line = .ok options ∧ close = some false := by
    rw [readShape_eq, opened]
    simp only [result_bind_eq_ok]
    constructor
    · rintro ⟨_, chosen, _, ⟨⟩, ⟨⟩⟩
      exact ⟨chosen, rfl⟩
    · rintro ⟨chosen, rfl⟩
      exact ⟨options, chosen, _, rfl, rfl⟩
  rw [show readDirective .polyline fields = readPolyline fields from rfl, readPolyline_eq_ok]
  constructor
  · rintro ⟨n, points, options, close, rfl, counts, places, -, number, given⟩
    cases counts.unique two
    obtain ⟨start, way, rfl⟩ := List.length_eq_two.mp number
    obtain ⟨chosen, rfl⟩ := shape.mp given
    refine ⟨start, way, options, rfl, ?_, chosen⟩
    rwa [places_coordinates_iff (by rw [five]; rfl), five] at places
  · rintro ⟨start, way, options, rfl, places, chosen⟩
    refine ⟨2, [start, way], options, some false, rfl, two, ?_, List.cons_ne_nil _ _, rfl, shape.mpr ⟨chosen, rfl⟩⟩
    exact (places_coordinates_iff (by rw [five]; rfl)).mpr (by rw [five]; exact places)

end

/-- The last thing said of an open polyline is that it is open; all else is said as of the line. -/
theorem last?_opened (fields : List String) (key : String) :
    (Fields.ofList (trimmed ("2" :: fields ++ ["close=false"]))).last? key =
      (lastValue? ["close=false".toList] key).or ((Fields.ofList (trimmed fields)).last? key) := by
  have parts : trimmed ("2" :: fields ++ ["close=false"]) =
      ['2'] :: trimmed fields ++ ["close=false".toList] := by
    rw [trimmed, List.map_append, List.map_cons]
    rfl
  have number : lastValue? [['2']] key = none := lastValue?_of_stray (show entry? ['2'] = none by decide) key
  rw [last?_ofList trimmed_stripped, last?_ofList trimmed_stripped, parts, lastValue?_append, lastValue?_cons ['2'],
    number, Option.or_none]

/-- The options that a line knows are not among what is said of the polyline alone. -/
theorem line_opened (fields : List String) :
    (Fields.ofList (trimmed ("2" :: fields ++ ["close=false"]))).line = (Fields.ofList (trimmed fields)).line := by
  have style : lastValue? ["close=false".toList] "line_style" = none := by decide
  have width : lastValue? ["close=false".toList] "line_width" = none := by decide
  simp only [Fields.line, Fields.option, last?_opened, style, width, Option.none_or]

theorem close_opened (fields : List String) :
    (Fields.ofList (trimmed ("2" :: fields ++ ["close=false"]))).last? "close" = some "false".toList := by
  have said : lastValue? ["close=false".toList] "close" = some "false".toList := by decide
  rw [last?_opened, said, Option.some_or]

section
variable {a b c d : String} {options : List String} (fit : ∀ field ∈ [a, b, c, d] ++ options, Fits field.toList)
  (plain : ∀ field ∈ [a, b, c, d], ¬ isOption field.toList) (given : ∀ field ∈ options, isOption field.toList)
  {commands : List (Command Float)}
include fit plain given

/-- What the line comes to. -/
theorem read_segment :
    read (written .line ([a, b, c, d] ++ options)) = .ok commands ↔ ∃ start way chosen,
      commands = [⟨some 1, .line start way chosen⟩] ∧ Places (trimmed [a, b, c, d]) [start, way] ∧
        (Fields.ofList (trimmed ([a, b, c, d] ++ options))).line = .ok chosen := by
  rw [read_written_eq_ok .line fit]
  simp only [readDirective_line_eq_ok (positional_trimmed plain given)]
  constructor
  · rintro ⟨_, ⟨start, way, chosen, rfl, places, known⟩, rfl⟩
    exact ⟨start, way, chosen, rfl, places, known⟩
  · rintro ⟨start, way, chosen, rfl, places, known⟩
    exact ⟨_, ⟨start, way, chosen, rfl, places, known⟩, rfl⟩

/-- What the polyline comes to, on the same conditions. -/
theorem read_opened :
    read (written .polyline ("2" :: ([a, b, c, d] ++ options) ++ ["close=false"])) = .ok commands ↔
      ∃ start way chosen, commands = [⟨some 1, .polyline 2 [start, way] chosen (some false)⟩] ∧
        Places (trimmed [a, b, c, d]) [start, way] ∧
        (Fields.ofList (trimmed ([a, b, c, d] ++ options))).line = .ok chosen := by
  have fits : ∀ field ∈ "2" :: ([a, b, c, d] ++ options) ++ ["close=false"], Fits field.toList :=
    List.forall_mem_append.mpr ⟨List.forall_mem_cons.mpr ⟨by decide, fit⟩,
      List.forall_mem_singleton.mpr (by decide)⟩
  have first : ∀ field ∈ "2" :: [a, b, c, d], ¬ isOption field.toList :=
    List.forall_mem_cons.mpr ⟨by decide, plain⟩
  have behind : ∀ field ∈ options ++ ["close=false"], isOption field.toList :=
    List.forall_mem_append.mpr ⟨given, List.forall_mem_singleton.mpr (by decide)⟩
  have parts : (Fields.ofList (trimmed ("2" :: ([a, b, c, d] ++ options) ++ ["close=false"]))).positional =
      trimmed ("2" :: [a, b, c, d]) :=
    positional_trimmed first behind
  rw [read_written_eq_ok .polyline fits]
  simp only [readDirective_polyline_eq_ok parts (close_opened _), line_opened]
  constructor
  · rintro ⟨_, ⟨start, way, chosen, rfl, places, known⟩, rfl⟩
    exact ⟨start, way, chosen, rfl, places, known⟩
  · rintro ⟨start, way, chosen, rfl, places, known⟩
    exact ⟨_, ⟨start, way, chosen, rfl, places, known⟩, rfl⟩

/-- A line can be read just when the open polyline of its two points can, written with the same fields and options.
Both are drawn by the same requests, whatever the sink: one call, from the start and its margin to a way from there,
with the options of the line. -/
theorem line_opened_alike :
    let line := written .line ([a, b, c, d] ++ options)
    let opened := written .polyline ("2" :: ([a, b, c, d] ++ options) ++ ["close=false"])
    ((∃ commands, read line = .ok commands) ↔ ∃ commands, read opened = .ok commands) ∧
      ∀ commands others, read line = .ok commands → read opened = .ok others →
        (∀ {σ : Type} (sink : Sink Float σ) (job : Job Float) (s : σ),
          let rendered := (render sink job commands).outcome s
          let again := (render sink job others).outcome s
          again.2 = rendered.2 ∧ again.1.toOption = rendered.1.toOption) ∧
        ∃ start way chosen, Places (trimmed [a, b, c, d]) [start, way] ∧
          ∀ (answers : Answers Float) (job : Job Float) (r : Recording Float),
            let first : Point Float := ⟨start.x + job.margin, start.y + job.margin⟩
            let second : Point Float := ⟨first.x + way.x, first.y + way.y⟩
            let drawn := { r.opened.addAll [.polyline (r.pages + 1) [first, second] false chosen] with
              reports := .rendered 1 :: r.reports }
            (render (.recording answers) job commands).outcome r = (.ok (), drawn) ∧
              (render (.recording answers) job others).outcome r = (.ok (), drawn) := by
  intro line opened
  constructor
  · constructor
    · rintro ⟨_, done⟩
      obtain ⟨start, way, chosen, -, segment⟩ := (read_segment fit plain given).mp done
      exact ⟨_, (read_opened fit plain given).mpr ⟨start, way, chosen, rfl, segment⟩⟩
    · rintro ⟨_, done⟩
      obtain ⟨start, way, chosen, -, segment⟩ := (read_opened fit plain given).mp done
      exact ⟨_, (read_segment fit plain given).mpr ⟨start, way, chosen, rfl, segment⟩⟩
  · intro commands others done again
    obtain ⟨start, way, chosen, rfl, places, known⟩ := (read_segment fit plain given).mp done
    obtain ⟨_, _, _, rfl, same, alike⟩ := (read_opened fit plain given).mp again
    cases places.unique same
    cases known.symm.trans alike
    refine ⟨fun sink job => render_singleton_congr sink job fun _ => rfl, start, way, chosen, places, ?_⟩
    intro answers job r
    exact ⟨render_segment answers job (some 1) start way chosen r, rfl⟩

end

/-- A line with blanks and units in it, which is told twice how wide it is, and that it is closed, of which lines
know nothing. -/
theorem line_opened_alike_twice :
    let line := written .line ["1mm", " 2", "3", "4 mm", "line_width=x", "close=yes", "line_width=2 "]
    let opened := written .polyline
      ["2", "1mm", " 2", "3", "4 mm", "line_width=x", "close=yes", "line_width=2 ", "close=false"]
    let command : Command Float := ⟨some 1, .line ⟨1, 2⟩ ⟨3, 4⟩ ⟨some 2, none⟩⟩
    read line = .ok [command] ∧ ∃ others, read opened = .ok others ∧
      ∀ (answers : Answers Float) (job : Job Float) (r : Recording Float),
        ((render (.recording answers) job others).outcome r).2 =
          ((render (.recording answers) job [command]).outcome r).2 := by
  intro line opened command
  let options := ["line_width=x", "close=yes", "line_width=2 "]
  have fit : ∀ field ∈ ["1mm", " 2", "3", "4 mm"] ++ options, Fits field.toList := by decide
  have plain : ∀ field ∈ ["1mm", " 2", "3", "4 mm"], ¬ isOption field.toList := by decide
  have given : ∀ field ∈ options, isOption field.toList := by decide
  have done : read line = .ok [command] :=
    (read_segment fit plain given).mpr ⟨_, _, _, rfl, .cons rfl rfl (.cons rfl rfl .nil), rfl⟩
  obtain ⟨readable, alike⟩ := line_opened_alike fit plain given
  obtain ⟨others, again⟩ := readable.mp ⟨_, done⟩
  exact ⟨done, others, again, fun answers job r => ((alike _ _ done again).1 (.recording answers) job r).1⟩

end Script

end Rirekisho
