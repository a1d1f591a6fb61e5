import Mathlib.Data.List.DropRight
import Rirekisho.Proofs.Script.Row

namespace Rirekisho.Script

/-- The coordinates among the fields of a polyline: those behind the first one, without the empty ones at
their end. -/
def coordinates (fields : List (List Char)) : List (List Char) := fields.tail.rdropWhile List.isEmpty

/-- The first field is the number, written out. -/
def Counts (fields : List (List Char)) (n : Nat) : Prop :=
  ∃ raw, fields.head? = some raw ∧ Numeral.integer? Text.digitValue? raw = some (n : Int)

/-- The coordinates are those of the points, two for each. -/
def Places (coordinates : List (List Char)) (points : List (Point Float)) : Prop :=
  coordinates.length = 2 * points.length ∧
    ∀ (i : Nat) (point : Point Float), points[i]? = some point →
      ∃ x y, coordinates[2 * i]? = some x ∧ length? x = some point.x ∧
        coordinates[2 * i + 1]? = some y ∧ length? y = some point.y

/-- The fault of the first coordinate that is no length, where points are counted from a number on. -/
def Unmeasured (n : Nat) (coordinates : List (List Char)) (e : FieldFault) : Prop :=
  ∃ i raw, coordinates[i]? = some raw ∧ length? raw = none ∧
    (∀ earlier ∈ coordinates.take i, (length? earlier).isSome) ∧
    e = ⟨.malformed .length (String.ofList raw),
      coordinateName (if i % 2 = 0 then "x" else "y") (n + i / 2)⟩

/-- What is told of a polyline that cannot be read: the first of these that is so. Each one supposes that
the ones before it are not so. -/
inductive PolylineFlaw (fields : List (List Char)) (last : String → Option (List Char)) : FieldFault → Prop
  | count {e : FieldFault} : Flawed [countField "stroke_number"] fields e → PolylineFlaw fields last e
  | unpaired {n : Nat} : Counts fields n → (coordinates fields).length % 2 = 1 →
      PolylineFlaw fields last ⟨.missingField, coordinateName "y" ((coordinates fields).length / 2)⟩
  | unmeasured {n : Nat} {e : FieldFault} : Counts fields n → (coordinates fields).length % 2 = 0 →
      Unmeasured 0 (coordinates fields) e → PolylineFlaw fields last e
  | pointless {n : Nat} : Counts fields n → coordinates fields = [] →
      PolylineFlaw fields last ⟨.noPoints, "positions"⟩
  | miscounted {n : Nat} {points : List (Point Float)} : Counts fields n →
      Places (coordinates fields) points → points ≠ [] → points.length ≠ n →
      PolylineFlaw fields last ⟨.pointCount points.length n, "stroke_number"⟩
  | option {n : Nat} {points : List (Point Float)} {e : FieldFault} : Counts fields n →
      Places (coordinates fields) points → points ≠ [] → points.length = n →
      Misgiven (optionSpecs .polyline) last e → PolylineFlaw fields last e

section
variable {n : Nat} {x y : List Char} {rest : List (List Char)} {points : List (Point Float)} {e : FieldFault}

theorem Places.nil : Places [] [] := ⟨rfl, nofun⟩

theorem Places.cons {point : Point Float} (across : length? x = some point.x) (up : length? y = some point.y)
    (others : Places rest points) : Places (x :: y :: rest) (point :: points) := by
  obtain ⟨count, each⟩ := others
  refine ⟨by simp only [List.length_cons, count]; omega, fun i other there => ?_⟩
  cases i with
  | zero =>
    cases there
    exact ⟨x, y, rfl, across, rfl, up⟩
  | succ i => exact each i other there

/-- The coordinates of points are lengths, all of them. -/
theorem Places.measured {coordinates : List (List Char)} (places : Places coordinates points) :
    ∀ raw ∈ coordinates, (length? raw).isSome := by
  intro raw member
  obtain ⟨i, there⟩ := List.mem_iff_getElem?.mp member
  have bound := (List.getElem?_eq_some_iff.mp there).1
  obtain ⟨count, each⟩ := places
  have half : i / 2 < points.length := by omega
  obtain ⟨x, y, atX, across, atY, up⟩ := each (i / 2) _ (List.getElem?_eq_getElem half)
  rcases Nat.mod_two_eq_zero_or_one i with even | odd
  · rw [show 2 * (i / 2) = i by omega, there] at atX
    cases atX
    rw [across]
    rfl
  · rw [show 2 * (i / 2) + 1 = i by omega, there] at atY
    cases atY
    rw [up]
    rfl

theorem Unmeasured.first (malformed : length? x = none) (rest : List (List Char)) :
    Unmeasured n (x :: rest) ⟨.malformed .length (String.ofList x), coordinateName "x" n⟩ :=
  ⟨0, x, rfl, malformed, nofun, rfl⟩

theorem Unmeasured.second (across : (length? x).isSome) (malformed : length? y = none)
    (rest : List (List Char)) :
    Unmeasured n (x :: y :: rest) ⟨.malformed .length (String.ofList y), coordinateName "y" n⟩ := by
  refine ⟨1, y, rfl, malformed, ?_, rfl⟩
  intro earlier member
  cases List.mem_singleton.mp member
  exact across

theorem Unmeasured.later (across : (length? x).isSome) (up : (length? y).isSome)
    (others : Unmeasured (n + 1) rest e) : Unmeasured n (x :: y :: rest) e := by
  obtain ⟨i, raw, there, malformed, before, rfl⟩ := others
  refine ⟨i + 2, raw, there, malformed, ?_, ?_⟩
  · simp only [List.take_succ_cons, List.forall_mem_cons]
    exact ⟨across, up, before⟩
  · rw [Nat.add_mod_right, show n + (i + 2) / 2 = n + 1 + i / 2 by omega]

end

/-- A pair of coordinates is read, or the first of the two is told that is no length. -/
theorem readPair_judged (n : Nat) (x y : List Char) (rest : List (List Char)) :
    match readRow [lengthField (coordinateName "x" n), lengthField (coordinateName "y" n)] [x, y] with
    | .ok (px, py, ()) => length? x = some px ∧ length? y = some py
    | .error e => Unmeasured n (x :: y :: rest) e := by
  simp only [readRow, lengthField, FieldKind.read, readLength]
  cases across : length? x with
  | none => exact .first across _
  | some px =>
    have measured : (length? x).isSome := by rw [across]; rfl
    cases up : length? y with
    | none => exact .second measured up _
    | some py => exact ⟨rfl, rfl⟩

/-- Points are read from pairs of coordinates, up to the first one that is no length. -/
theorem readPoints_judged (n : Nat) (coordinates : List (List Char)) (paired : coordinates.length % 2 = 0) :
    match readPoints n coordinates with
    | .ok points => Places coordinates points
    | .error e => Unmeasured n coordinates e := by
  induction n, coordinates using readPoints.induct with
  | case1 n x y rest e broken =>
    have pair := readPair_judged n x y rest
    rw [broken] at pair
    simp only [readPoints, broken]
    exact pair
  | case2 n x y rest px py read e broken ih =>
    have others := ih (by simp only [List.length_cons] at paired; omega)
    have pair := readPair_judged n x y rest
    rw [read] at pair
    rw [broken] at others
    simp only [readPoints, read, broken]
    exact others.later (Option.isSome_of_eq_some pair.1) (Option.isSome_of_eq_some pair.2)
  | case3 n x y rest px py read points done ih =>
    have others := ih (by simp only [List.length_cons] at paired; omega)
    have pair := readPair_judged n x y rest
    rw [read] at pair
    rw [done] at others
    simp only [readPoints, read, done]
    exact others.cons pair.1 pair.2
  | case4 coordinates n short =>
    rcases coordinates with _ | ⟨x, _ | ⟨y, rest⟩⟩
    · exact .nil
    · cases paired
    · exact absurd rfl (short x y rest)

theorem integer?_of_judge {raw : List Char} {n : Nat} (judged : FieldKind.count.judge raw = .ok (.count n)) :
    Numeral.integer? Text.digitValue? raw = some (n : Int) := by
  simp only [FieldKind.judge] at judged
  split at judged
  next m found =>
    cases judged
    exact found
  next => cases judged
  next => cases judged

theorem declaredCount_judged (fields : Fields) :
    match declaredCount fields with
    | .ok n => Counts fields.positional n
    | .error e => Flawed [countField "stroke_number"] fields.positional e := by
  have row := readRow_judged (specs .polyline) fields.positional
  unfold declaredCount
  cases read : readRow (specs .polyline) fields.positional with
  | error e =>
    rw [read] at row
    exact row
  | ok values =>
    rw [read] at row
    obtain ⟨raw, value, there, judged, same⟩ := row.2 0 _ rfl
    cases same
    exact ⟨raw, List.head?_eq_getElem?.trans there, integer?_of_judge judged⟩

theorem readTruth_judges : Judges (OptionKind.judge .truth) .truth readTruth := by
  intro raw
  simp only [readTruth, OptionKind.judge]
  generalize String.ofList (raw.map Numeral.lowerAscii) = word
  by_cases yes : word ∈ ["true", "yes", "1"]
  · rw [if_pos yes, if_pos yes]
  · rw [if_neg yes, if_neg yes]
    by_cases no : word ∈ ["false", "no", "0"]
    · rw [if_pos no, if_pos no]
    · rw [if_neg no, if_neg no]
      exact ⟨.truth, rfl, rfl⟩

/-- The options of a polyline, in the order in which they are read. -/
def readShape (fields : Fields) : Except FieldFault (LineOptions Float × Option Bool) := do
  let style ← fields.option "line_style" readLineStyle
  let width ← fields.option "line_width" readNumber
  let close ← fields.option "close" readTruth
  return (⟨width, style⟩, close)

theorem readShape_eq (fields : Fields) :
    readShape fields = do
      let options ← fields.line
      let close ← fields.close
      return (options, close) := by
  simp only [readShape, Fields.line, Fields.close, bind_assoc, pure_bind]

theorem readShape_gathers (fields : Fields) :
    Gathers fields.last? (fun (options, close) => options.row ++ [("close", close.map .truth)]) []
      (optionSpecs .polyline) (readShape fields) :=
  .cons readLineStyle_judges fun _ => .cons readNumber_judges fun _ => .cons readTruth_judges fun _ => .nil rfl

/-- A polyline put together from its points, when there are as many of them as it says. -/
def closePolyline (fields : Fields) (n : Nat) (points : List (Point Float)) :
    Except FieldFault (Directive Float) :=
  if points = [] then .error ⟨.noPoints, "positions"⟩
  else if points.length ≠ n then .error ⟨.pointCount points.length n, "stroke_number"⟩
  else do
    let (options, close) ← readShape fields
    return .polyline n points options close

theorem readPolyline_eq (fields : Fields) :
    readPolyline fields = (do
      let n ← declaredCount fields
      if (coordinates fields.positional).length % 2 = 0 then
        let points ← readPoints 0 (coordinates fields.positional)
        closePolyline fields n points
      else throw ⟨.missingField, coordinateName "y" ((coordinates fields.positional).length / 2)⟩) := by
  unfold readPolyline
  refine bind_congr fun n => ?_
  change (if (coordinates fields.positional).length % 2 ≠ 0 then _ else _) = _
  by_cases paired : (coordinates fields.positional).length % 2 = 0
  · rw [if_neg (not_not_intro paired), if_pos paired]
    refine bind_congr fun points => ?_
    simp only [closePolyline, readShape_eq, List.isEmpty_iff, bind_assoc, pure_bind]
    split
    · rfl
    · split <;> rfl
  · rw [if_pos paired, if_neg paired]
    rfl

/-- A polyline that can be read has as many points as it says, and its own options. -/
structure Polyline (fields : List (List Char)) (last : String → Option (List Char)) (n : Nat)
    (points : List (Point Float)) (options : LineOptions Float) (close : Option Bool) : Prop where
  counts : Counts fields n
  places : Places (coordinates fields) points
  pointed : points ≠ []
  number : points.length = n
  chosen : Chosen (optionSpecs .polyline) last (Directive.polyline n points options close).options

theorem closePolyline_judged {fields : Fields} {n : Nat} {points : List (Point Float)}
    (counts : Counts fields.positional n) (places : Places (coordinates fields.positional) points) :
    match closePolyline fields n points with
    | .ok directive => ∃ options close, directive = .polyline n points options close ∧
        Polyline fields.positional fields.last? n points options close
    | .error e => PolylineFlaw fields.positional fields.last? e := by
  have gathers := readShape_gathers fields
  unfold closePolyline
  by_cases empty : points = []
  · rw [if_pos empty]
    cases empty
    exact .pointless counts (List.length_eq_zero_iff.mp places.1)
  · rw [if_neg empty]
    by_cases many : points.length = n
    · rw [if_neg (not_not_intro many)]
      cases shape : readShape fields with
      | error e =>
        rw [shape] at gathers
        exact .option counts places empty many gathers
      | ok given =>
        rw [shape] at gathers
        obtain ⟨data, found, chosen⟩ := gathers
        rw [List.nil_append] at found
        rw [← found] at chosen
        exact ⟨given.1, given.2, rfl, counts, places, empty, many, chosen⟩
    · rw [if_pos many]
      exact .miscounted counts places empty many

theorem readPolyline_judged (fields : Fields) :
    match readPolyline fields with
    | .ok directive => ∃ n points options close, directive = .polyline n points options close ∧
        Polyline fields.positional fields.last? n points options close
    | .error e => PolylineFlaw fields.positional fields.last? e := by
  have declared := declaredCount_judged fields
  have measured := readPoints_judged 0 (coordinates fields.positional)
  rw [readPolyline_eq]
  cases count : declaredCount fields with
  | error e =>
    rw [count] at declared
    exact .count declared
  | ok n =>
    rw [count] at declared
    have counts : Counts fields.positional n := declared
    rcases Nat.mod_two_eq_zero_or_one (coordinates fields.positional).length with paired | odd
    · have points := measured paired
      simp only [paired, if_true, bind, Except.bind]
      cases read : readPoints 0 (coordinates fields.positional) with
      | error e =>
        rw [read] at points
        exact .unmeasured declared paired points
      | ok all =>
        rw [read] at points
        have closed := closePolyline_judged counts points
        dsimp only
        cases done : closePolyline fields n all with
        | error e =>
          rw [done] at closed
          exact closed
        | ok directive =>
          rw [done] at closed
          obtain ⟨options, close, same, polyline⟩ := closed
          exact ⟨n, all, options, close, same, polyline⟩
    · simp only [bind, Except.bind, odd]
      exact .unpaired counts odd

section
variable {fields : List (List Char)} {last : String → Option (List Char)} {n : Nat} {e : FieldFault}

theorem Counts.unique {m : Nat} (counts : Counts fields n) (again : Counts fields m) : n = m := by
  obtain ⟨raw, first, reads⟩ := counts
  obtain ⟨other, same, also⟩ := again
  cases first.symm.trans same
  exact Int.ofNat_inj.mp (Option.some.inj (reads.symm.trans also))

theorem Counts.filled (counts : Counts fields n) :
    Filled [countField "stroke_number"] fields [("stroke_number", .count n)] := by
  obtain ⟨raw, first, reads⟩ := counts
  obtain ⟨rest, rfl⟩ := List.head?_eq_some_iff.mp first
  have judged : FieldKind.count.judge raw = .ok (.count n) := by simp only [FieldKind.judge, reads]
  exact .cons judged (.nil rest)

theorem Counts.not_flawed (counts : Counts fields n) : ¬ Flawed [countField "stroke_number"] fields e :=
  counts.filled.not_flawed e

theorem Chosen.not_misgiven {specs : List OptionSpec} {data : List (String × Option Datum)}
    (chosen : Chosen specs last data) : ¬ Misgiven specs last e := by
  rintro ⟨i, spec, before, raw, expected, there, -, given, malformed, -⟩
  obtain ⟨bound, same⟩ := List.getElem?_eq_some_iff.mp there
  have reads := (List.forall₂_iff_get.mp chosen).2 i bound (chosen.length_eq ▸ bound)
  simp only [List.get_eq_getElem, same, OptionSpec.Says, given] at reads
  obtain ⟨-, value, judged, -⟩ := reads
  cases judged.symm.trans malformed

/-- Nothing is told of a polyline whose fields are all as they should be. -/
theorem PolylineFlaw.absurd {data : List (String × Option Datum)} (flaw : PolylineFlaw fields last e)
    (counts : Counts fields n) (pointed : 1 ≤ n) (number : (coordinates fields).length = 2 * n)
    (measured : ∀ raw ∈ coordinates fields, (length? raw).isSome)
    (chosen : Chosen (optionSpecs .polyline) last data) : False := by
  cases flaw with
  | count flawed => exact counts.not_flawed flawed
  | unpaired _ odd => omega
  | unmeasured _ _ flawed =>
    obtain ⟨i, raw, there, malformed, -⟩ := flawed
    have fine := measured raw (List.mem_of_getElem? there)
    rw [malformed] at fine
    cases fine
  | pointless _ empty =>
    rw [empty] at number
    simp only [List.length_nil] at number
    omega
  | miscounted declared places _ different =>
    have same := counts.unique declared
    have pairs := places.1
    omega
  | option _ _ _ _ misgiven => exact chosen.not_misgiven misgiven

theorem coordinates_append {fields : List (List Char)} (begun : fields ≠ []) (k : Nat) :
    coordinates (fields ++ List.replicate k []) = coordinates fields := by
  unfold coordinates
  rw [List.tail_append_of_ne_nil begun]
  induction k with
  | zero => rw [List.replicate_zero, List.append_nil]
  | succ k ih => rw [List.replicate_succ', ← List.append_assoc, List.rdropWhile_concat_pos _ _ _ rfl, ih]

end

theorem readShape_congr {fields other : Fields}
    (options : ∀ spec ∈ optionSpecs .polyline, other.last? spec.name = fields.last? spec.name) :
    readShape other = readShape fields := by
  simp only [optionSpecs, List.forall_mem_cons] at options
  obtain ⟨style, width, close, -⟩ := options
  simp only [readShape, Fields.option, style, width, close]

theorem readPolyline_congr {fields other : Fields}
    (first : other.positional.head? = fields.positional.head?)
    (behind : coordinates other.positional = coordinates fields.positional)
    (options : ∀ spec ∈ optionSpecs .polyline, other.last? spec.name = fields.last? spec.name) :
    readPolyline other = readPolyline fields := by
  have row : readRow (specs .polyline) other.positional = readRow (specs .polyline) fields.positional := by
    rw [← readRow_take, ← readRow_take _ fields.positional]
    exact congrArg (readRow (specs .polyline)) (by
      rw [show (specs .polyline).length = 1 from rfl, List.take_one, List.take_one, first])
  have count : declaredCount other = declaredCount fields := by unfold declaredCount; rw [row]
  simp only [readPolyline_eq, closePolyline, count, behind, readShape_congr options]

/-- A line of a polyline is read, with the points that it declares, when its number, its coordinates and its
options are as they should be; else the first flaw is told. Empty fields behind the last one do not matter. -/
theorem readLine_polyline {line : List Char} (word : firstWord line = Keyword.polyline.name) (number : Int) :
    (match readLine number line with
      | .ok read => ∃ n points options close,
          read = some ⟨some number, .polyline n points options close⟩ ∧
            Polyline (positional line) (lastValue? (arguments line)) n points options close
      | .error e => ∃ flaw, PolylineFlaw (positional line) (lastValue? (arguments line)) flaw ∧
          e = ⟨flaw.fault, some number, some Keyword.polyline.name, some flaw.field⟩) ∧
    ((∃ read, readLine number line = .ok read) ↔
      ∃ n data, Counts (positional line) n ∧ 1 ≤ n ∧ (coordinates (positional line)).length = 2 * n ∧
        (∀ raw ∈ coordinates (positional line), (length? raw).isSome) ∧
        Chosen (optionSpecs .polyline) (lastValue? (arguments line)) data) ∧
    ∀ other k, firstWord other = Keyword.polyline.name → positional line ≠ [] →
      positional other = positional line ++ List.replicate k [] →
      (∀ spec ∈ optionSpecs .polyline,
        lastValue? (arguments other) spec.name = lastValue? (arguments line) spec.name) →
      readLine number other = readLine number line := by
  have last (line : List Char) :
      (Fields.ofList (arguments line)).last? = lastValue? (arguments line) :=
    funext (last?_ofList arguments_stripped)
  have judged := readPolyline_judged (Fields.ofList (arguments line))
  rw [last] at judged
  refine ⟨?_, ⟨?_, ?_⟩, ?_⟩
  · rw [readLine_keyword word, readDirective]
    cases read : readPolyline (Fields.ofList (arguments line)) with
    | ok directive =>
      rw [read] at judged
      obtain ⟨n, points, options, close, rfl, polyline⟩ := judged
      exact ⟨n, points, options, close, rfl, polyline⟩
    | error e =>
      rw [read] at judged
      exact ⟨e, judged, rfl⟩
  · rintro ⟨command, done⟩
    rw [readLine_keyword word, readDirective] at done
    cases read : readPolyline (Fields.ofList (arguments line)) with
    | ok directive =>
      rw [read] at judged
      obtain ⟨n, points, options, close, -, polyline⟩ := judged
      refine ⟨n, _, polyline.counts, ?_, ?_, polyline.places.measured, polyline.chosen⟩
      · rw [← polyline.number]
        exact List.length_pos_of_ne_nil polyline.pointed
      · rw [← polyline.number]
        exact polyline.places.1
    | error e =>
      rw [read] at done
      cases done
  · rintro ⟨n, data, counts, pointed, number, measured, chosen⟩
    rw [readLine_keyword word, readDirective]
    cases read : readPolyline (Fields.ofList (arguments line)) with
    | ok directive => exact ⟨_, rfl⟩
    | error e =>
      rw [read] at judged
      exact (judged.absurd counts pointed number measured chosen).elim
  · intro other k same begun padded options
    have alike : readPolyline (Fields.ofList (arguments other)) =
        readPolyline (Fields.ofList (arguments line)) := by
      refine readPolyline_congr ?_ ?_ fun spec known => ?_
      · change (positional other).head? = (positional line).head?
        rw [padded, List.head?_append_of_ne_nil _ begun]
      · change coordinates (positional other) = coordinates (positional line)
        rw [padded, coordinates_append begun]
      · rw [last, last]
        exact options spec known
    rw [readLine_keyword word, readLine_keyword same, readDirective, readDirective, alike]

/-- A polyline of two points, and the same one with two fields left empty behind the last coordinate. -/
theorem readLine_polyline_pair :
    let line := "lines, 2, 0, 0, 10, 10mm, line_width=1, close=no".toList
    let other := "lines,2,0,0,10,10mm,,,close=no,line_width=0.5,line_width=1".toList
    firstWord line = Keyword.polyline.name ∧ firstWord other = Keyword.polyline.name ∧
      (∀ e, readLine 3 line = .error e → ∃ flaw,
        PolylineFlaw (positional line) (lastValue? (arguments line)) flaw ∧
          e = ⟨flaw.fault, some 3, some Keyword.polyline.name, some flaw.field⟩) ∧
      readLine 3 other = readLine 3 line := by
  intro line other
  have word : firstWord line = Keyword.polyline.name := by decide
  have same : firstWord other = Keyword.polyline.name := by decide
  have options : ∀ spec ∈ optionSpecs .polyline,
      lastValue? (arguments other) spec.name = lastValue? (arguments line) spec.name := by
    simp only [optionSpecs, List.forall_mem_cons]
    exact ⟨by decide, by decide, by decide, List.forall_mem_nil _⟩
  obtain ⟨outcome, -, padded⟩ := readLine_polyline word 3
  refine ⟨word, same, fun e stopped => ?_, padded other 2 same (by decide) (by decide) options⟩
  rw [stopped] at outcome
  exact outcome

end Rirekisho.Script
