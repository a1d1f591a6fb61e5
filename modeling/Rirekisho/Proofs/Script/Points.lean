import Rirekisho.Proofs.Script.Polyline

namespace Rirekisho.Script

section
variable {fields : List (List Char)} {coordinates more : List (List Char)} {points extra : List (Point Float)}

/-- Coordinates are those of one list of points only. -/
theorem Places.unique (places : Places coordinates points) (again : Places coordinates extra) : points = extra := by
  have count : points.length = extra.length := by
    have first := places.1
    have second := again.1
    omega
  -- a point is told by the two coordinates at its place
  refine List.ext_getElem count fun i bound other => ?_
  obtain ⟨x, y, atX, across, atY, up⟩ := places.2 i _ (List.getElem?_eq_getElem bound)
  obtain ⟨x', y', atX', across', atY', up'⟩ := again.2 i _ (List.getElem?_eq_getElem other)
  cases atX.symm.trans atX'
  cases atY.symm.trans atY'
  have sameX := Option.some.inj (across.symm.trans across')
  have sameY := Option.some.inj (up.symm.trans up')
  calc points[i] = ⟨points[i].x, points[i].y⟩ := rfl
    _ = ⟨extra[i].x, extra[i].y⟩ := by rw [sameX, sameY]

theorem Places.append (places : Places coordinates points) (further : Places more extra) :
    Places (coordinates ++ more) (points ++ extra) := by
  obtain ⟨count, each⟩ := places
  obtain ⟨moreCount, moreEach⟩ := further
  refine ⟨by rw [List.length_append, List.length_append, count, moreCount]; omega, fun i point there => ?_⟩
  by_cases before : i < points.length
  · rw [List.getElem?_append_left before] at there
    obtain ⟨x, y, atX, across, atY, up⟩ := each i point there
    refine ⟨x, y, ?_, across, ?_, up⟩
    · rwa [List.getElem?_append_left (by omega)]
    · rwa [List.getElem?_append_left (by omega)]
  · rw [List.getElem?_append_right (by omega)] at there
    obtain ⟨x, y, atX, across, atY, up⟩ := moreEach (i - points.length) point there
    refine ⟨x, y, ?_, across, ?_, up⟩
    · rw [List.getElem?_append_right (by omega), show 2 * i - coordinates.length = 2 * (i - points.length) by omega]
      exact atX
    · rw [List.getElem?_append_right (by omega),
        show 2 * i + 1 - coordinates.length = 2 * (i - points.length) + 1 by omega]
      exact atY

theorem readPoints_of_places (places : Places coordinates points) : readPoints 0 coordinates = .ok points := by
  have paired : coordinates.length % 2 = 0 := by rw [places.1]; omega
  have judged := readPoints_judged 0 coordinates paired
  cases read : readPoints 0 coordinates with
  | ok other =>
    rw [read] at judged
    rw [places.unique judged]
  | error e =>
    rw [read] at judged
    obtain ⟨i, raw, there, malformed, -⟩ := judged
    have measured := places.measured raw (List.mem_of_getElem? there)
    rw [malformed] at measured
    cases measured

end

theorem declaredCount_of_counts {fields : Fields} {n : Nat} (counts : Counts fields.positional n) :
    declaredCount fields = .ok n := by
  have judged := declaredCount_judged fields
  cases read : declaredCount fields with
  | ok m =>
    rw [read] at judged
    rw [counts.unique judged]
  | error e =>
    rw [read] at judged
    exact absurd judged counts.not_flawed

/-- A polyline is read when it says how many points it has, as many of them follow, one at least, and its options
can be read. -/
theorem readPolyline_eq_ok {fields : Fields} {directive : Directive Float} :
    readPolyline fields = .ok directive ↔ ∃ n points options close,
      directive = .polyline n points options close ∧ Counts fields.positional n ∧
        Places (coordinates fields.positional) points ∧ points ≠ [] ∧ points.length = n ∧
        readShape fields = .ok (options, close) := by
  constructor
  · intro read
    have judged := readPolyline_judged fields
    rw [read] at judged
    obtain ⟨n, points, options, close, rfl, polyline⟩ := judged
    have paired : (coordinates fields.positional).length % 2 = 0 := by rw [polyline.places.1]; omega
    refine ⟨n, points, options, close, rfl, polyline.counts, polyline.places, polyline.pointed, polyline.number, ?_⟩
    rw [readPolyline_eq, declaredCount_of_counts polyline.counts] at read
    simp only [bind, Except.bind, paired, if_true, readPoints_of_places polyline.places, closePolyline,
      polyline.pointed, if_false, polyline.number, ne_eq, not_true_eq_false] at read
    cases shape : readShape fields with
    | error e =>
      rw [shape] at read
      cases read
    | ok given =>
      rw [shape] at read
      cases read
      rfl
  · rintro ⟨n, points, options, close, rfl, counts, places, pointed, number, shape⟩
    have paired : (coordinates fields.positional).length % 2 = 0 := by rw [places.1]; omega
    rw [readPolyline_eq, declaredCount_of_counts counts]
    simp only [bind, Except.bind, paired, if_true, readPoints_of_places places, closePolyline, pointed, if_false,
      number, ne_eq, not_true_eq_false, shape]
    rfl

/-- A polyline can be gone on with: further coordinates are read as further points. -/
theorem readPolyline_further {fields other : Fields} {n m : Nat} {points extra : List (Point Float)}
    {more : List (List Char)} {options : LineOptions Float} {close : Option Bool}
    (read : readPolyline fields = .ok (.polyline n points options close))
    (counts : Counts other.positional (n + m))
    (behind : coordinates other.positional = coordinates fields.positional ++ more) (places : Places more extra)
    (number : extra.length = m)
    (same : ∀ spec ∈ optionSpecs .polyline, other.last? spec.name = fields.last? spec.name) :
    readPolyline other = .ok (.polyline (n + m) (points ++ extra) options close) := by
  obtain ⟨_, _, _, _, equal, -, begun, pointed, count, shape⟩ := readPolyline_eq_ok.mp read
  cases equal
  refine readPolyline_eq_ok.mpr ⟨_, _, _, _, rfl, counts, ?_, ?_, ?_, ?_⟩
  · rw [behind]
    exact begun.append places
  · exact List.append_ne_nil_of_left_ne_nil pointed extra
  · rw [List.length_append, count, number]
  · rw [readShape_congr same, shape]

end Rirekisho.Script
