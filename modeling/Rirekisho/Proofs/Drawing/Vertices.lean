import Mathlib.Algebra.Ring.Rat
import Mathlib.Tactic.Ring
import Rirekisho.Proofs.Drawing.Layout
import Rirekisho.Proofs.Script.Points

namespace Rirekisho

variable {α : Type} [Scalar α]

/-- The vertices lie where the points of a polyline lead to: the first one a margin away from the first point, and
each next one a way away from the one before. -/
structure Trail (margin : α) (points vertices : List (Point α)) : Prop where
  count : vertices.length = points.length
  first : ∀ point ∈ points.head?, vertices.head? = some ⟨point.x + margin, point.y + margin⟩
  next : ∀ (k : Nat) (vertex way : Point α), vertices[k]? = some vertex → points[k + 1]? = some way →
    vertices[k + 1]? = some ⟨vertex.x + way.x, vertex.y + way.y⟩

theorem pathFrom_length (start : Point α) (ways : List (Point α)) :
    (pathFrom start ways).length = ways.length + 1 := by
  induction ways generalizing start with
  | nil => rfl
  | cons way rest ih => rw [pathFrom, List.length_cons, List.length_cons, ih]

theorem pathFrom_head? (start : Point α) (ways : List (Point α)) : (pathFrom start ways).head? = some start := by
  cases ways <;> rfl

theorem pathFrom_next {start vertex way : Point α} {ways : List (Point α)} {k : Nat}
    (here : (pathFrom start ways)[k]? = some vertex) (there : ways[k]? = some way) :
    (pathFrom start ways)[k + 1]? = some (vertex + way) := by
  induction ways generalizing start k with
  | nil => cases there
  | cons first rest ih =>
    cases k with
    | zero =>
      cases here
      cases there
      rw [pathFrom, List.getElem?_cons_succ, ← List.head?_eq_getElem?, pathFrom_head?]
    | succ k =>
      rw [pathFrom, List.getElem?_cons_succ] at here ⊢
      exact ih here there

/-- What is drawn for a polyline is its trail. -/
theorem trail_pathFrom (margin : α) (first : Point α) (ways : List (Point α)) :
    Trail margin (first :: ways) (pathFrom (first + ⟨margin, margin⟩) ways) where
  count := pathFrom_length _ ways
  first := by
    rintro _ ⟨⟩
    exact pathFrom_head? _ ways
  next _ _ _ here there := pathFrom_next here there

namespace Trail

variable {margin : α} {points more vertices others : List (Point α)}

/-- There is only one trail of points. -/
theorem unique (trail : Trail margin points vertices) (again : Trail margin points others) : vertices = others := by
  refine List.ext_getElem? fun k => ?_
  -- by the number of the vertex: where both trails have the same one, they go the same way from there
  induction k with
  | zero =>
    rw [← List.head?_eq_getElem?, ← List.head?_eq_getElem?]
    cases points with
    | nil => rw [List.length_eq_zero_iff.mp trail.count, List.length_eq_zero_iff.mp again.count]
    | cons first ways => rw [trail.first first rfl, again.first first rfl]
  | succ k ih =>
    by_cases bound : k + 1 < points.length
    · have before : k < vertices.length := by
        rw [trail.count]
        omega
      have here := List.getElem?_eq_getElem before
      have way := List.getElem?_eq_getElem bound
      rw [trail.next k _ _ here way, again.next k _ _ (ih ▸ here) way]
    · have count := trail.count
      have same := again.count
      rw [List.getElem?_eq_none (by omega), List.getElem?_eq_none (by omega)]

theorem take (trail : Trail margin (points ++ more) vertices) :
    Trail margin points (vertices.take points.length) where
  count := by
    rw [List.length_take, trail.count, List.length_append]
    omega
  first := by
    intro point head
    obtain ⟨ways, rfl⟩ := List.head?_eq_some_iff.mp head
    rw [List.length_cons, List.head?_take, if_neg (Nat.succ_ne_zero _)]
    exact trail.first point rfl
  next := by
    intro k vertex way here there
    have bound : k + 1 < points.length := (List.getElem?_eq_some_iff.mp there).1
    rw [List.getElem?_take_of_lt (by omega)] at here ⊢
    exact trail.next k vertex way here (by rwa [List.getElem?_append_left bound])

/-- Further points leave the vertices of the first ones where they are. -/
theorem take_eq (trail : Trail margin points vertices) (longer : Trail margin (points ++ more) others) :
    others.take points.length = vertices :=
  longer.take.unique trail

end Trail

/-- Without rounding, a vertex is the margin and the sum of the points up to its own. -/
theorem Trail.sum {margin : Rat} {points vertices : List (Point Rat)} (trail : Trail margin points vertices)
    {k : Nat} {vertex : Point Rat} (here : vertices[k]? = some vertex) :
    vertex.x = margin + ((points.take (k + 1)).map Point.x).sum ∧
      vertex.y = margin + ((points.take (k + 1)).map Point.y).sum := by
  have bound : k < points.length := trail.count ▸ (List.getElem?_eq_some_iff.mp here).1
  induction k generalizing vertex with
  | zero =>
    obtain ⟨first, ways, rfl⟩ := List.exists_cons_of_length_pos bound
    have head := trail.first first rfl
    rw [List.head?_eq_getElem?, here] at head
    cases head
    simp only [List.take_succ_cons, List.take_zero, List.map_cons, List.map_nil, List.sum_cons, List.sum_nil]
    constructor <;> ring
  | succ k ih =>
    have before : k < vertices.length := by
      rw [trail.count]
      omega
    have previous := List.getElem?_eq_getElem before
    have way := List.getElem?_eq_getElem bound
    obtain ⟨across, up⟩ := ih previous (by omega)
    have next := trail.next k _ _ previous way
    rw [here] at next
    cases next
    rw [List.take_add_one, way]
    simp only [Option.toList_some, List.map_append, List.map_cons, List.map_nil, List.sum_append, List.sum_cons,
      List.sum_nil, across, up]
    constructor <;> ring

/-- Without rounding, the whole trail moves with its first point. -/
theorem Trail.moved {margin : Rat} {points vertices : List (Point Rat)} (trail : Trail margin points vertices)
    (way : Point Rat) : Trail margin (points.modifyHead (· + way)) (vertices.map (· + way)) where
  count := by rw [List.length_map, List.length_modifyHead, trail.count]
  first := by
    intro point head
    cases points with
    | nil => cases head
    | cons first ways =>
      cases head
      rw [List.head?_map, trail.first first rfl]
      have across : first.x + margin + way.x = first.x + way.x + margin := by ring
      have up : first.y + margin + way.y = first.y + way.y + margin := by ring
      exact congrArg some (congrArg₂ Point.mk across up)
  next := by
    intro k vertex step here there
    rw [List.getElem?_map] at here ⊢
    obtain ⟨old, before, rfl⟩ := Option.map_eq_some_iff.mp here
    have same : points[k + 1]? = some step := by
      cases points with
      | nil => cases there
      | cons first ways => exact there
    rw [trail.next k old step before same]
    have across : old.x + step.x + way.x = old.x + way.x + step.x := by ring
    have up : old.y + step.y + way.y = old.y + way.y + step.y := by ring
    exact congrArg some (congrArg₂ Point.mk across up)

/-- Wherever the polyline is drawn, it comes to one call, with the vertices of its trail. It is closed, unless it is
said to be open. -/
def DrawnAlong (n : Nat) (points : List (Point α)) (options : LineOptions α) (close : Option Bool) : Prop :=
  ∀ (line : Option Int) (answers : Answers α) (job : Job α) (page : Nat) (r : Recording α),
    let command : Command α := ⟨line, .polyline n points options close⟩
    ∃ vertices, Trail job.margin points vertices ∧
      (command.draw (.recording answers) job page).outcome r =
        (.ok page, r.addAll [.polyline page vertices (close != some false) options])

theorem drawnAlong (n : Nat) {points : List (Point α)} (pointed : points ≠ []) (options : LineOptions α)
    (close : Option Bool) : DrawnAlong n points options close := by
  intro line answers job page r command
  obtain ⟨first, ways, rfl⟩ := List.exists_cons_of_ne_nil pointed
  have closed : isClosed close = (close != some false) := by
    rcases close with _ | _ | _ <;> rfl
  have made : (command.directive.draw (.recording answers) job page).Makes page
      [.polyline page (pathFrom (first + ⟨job.margin, job.margin⟩) ways) (close != some false) options] := by
    rw [← closed]
    exact fun _ => rfl
  exact ⟨_, trail_pathFrom job.margin first ways, made.located line _ r⟩

namespace Script

/-- A polyline that can be read is drawn in one call, along the trail of its points. With further coordinates
behind its last one, and a number that counts them, it can be read too, and its trail begins with the same vertices.
Without rounding, a vertex is the margin and the sum of the points up to its own, and all of them move with the
first point. -/
theorem readLine_trail {line : List Char} {number : Int} {read : Option (Command Float)}
    (word : firstWord line = Keyword.polyline.name) (accepted : readLine number line = .ok read) :
    ∃ n points options close,
      read = some ⟨some number, .polyline n points options close⟩ ∧
      Polyline (positional line) (lastValue? (arguments line)) n points options close ∧
      DrawnAlong n points options close ∧
      (∀ other m more extra, firstWord other = Keyword.polyline.name → Counts (positional other) (n + m) →
        coordinates (positional other) = coordinates (positional line) ++ more → Places more extra →
        extra.length = m →
        (∀ spec ∈ optionSpecs .polyline,
          lastValue? (arguments other) spec.name = lastValue? (arguments line) spec.name) →
        readLine number other = .ok (some ⟨some number, .polyline (n + m) (points ++ extra) options close⟩) ∧
          ∀ margin vertices longer, Trail margin points vertices → Trail margin (points ++ extra) longer →
            longer.take n = vertices) ∧
      ∀ (exact : List (Point Rat)) (given : LineOptions Rat), exact.length = n →
        DrawnAlong n exact given close ∧
          ∀ margin vertices, Trail margin exact vertices →
            (∀ (k : Nat) (vertex : Point Rat), vertices[k]? = some vertex →
              vertex.x = margin + ((exact.take (k + 1)).map Point.x).sum ∧
                vertex.y = margin + ((exact.take (k + 1)).map Point.y).sum) ∧
            ∀ way, Trail margin (exact.modifyHead (· + way)) (vertices.map (· + way)) := by
  have judged := readPolyline_judged (Fields.ofList (arguments line))
  rw [readLine_keyword word, readDirective] at accepted
  cases found : readPolyline (Fields.ofList (arguments line)) with
  | error e =>
    rw [found] at accepted
    cases accepted
  | ok directive =>
    rw [found] at accepted judged
    obtain ⟨n, points, options, close, rfl, polyline⟩ := judged
    cases accepted
    rw [last?_arguments] at polyline
    refine ⟨n, points, options, close, rfl, polyline, drawnAlong n polyline.pointed options close, ?_, ?_⟩
    · intro other m more extra again counts behind places number same
      have longer : readPolyline (Fields.ofList (arguments other)) =
          .ok (.polyline (n + m) (points ++ extra) options close) :=
        readPolyline_further found counts behind places number fun spec known => by
          rw [last?_arguments, last?_arguments, same spec known]
      refine ⟨by rw [readLine_keyword again, readDirective, longer], fun margin vertices longer trail further => ?_⟩
      rw [← polyline.number]
      exact trail.take_eq further
    · intro exact given count
      have pointed : exact ≠ [] := by
        rintro rfl
        exact polyline.pointed (List.length_eq_zero_iff.mp (polyline.number.trans count.symm))
      exact ⟨drawnAlong n pointed given close,
        fun margin vertices trail => ⟨fun k vertex here => trail.sum here, trail.moved⟩⟩

/-- An open polyline of two points, with an empty field behind them, and the same one with a third point. -/
theorem readLine_trail_open :
    let line := "lines,2,0,0,10,5mm,,close=no".toList
    let other := "lines, 3,0,0,10,5mm, 1,-1,close=no".toList
    let options : LineOptions Float := {}
    let points : List (Point Float) := [⟨0, 0⟩, ⟨10, 5⟩]
    firstWord line = Keyword.polyline.name ∧
      readLine 6 line = .ok (some ⟨some 6, .polyline 2 points options (some false)⟩) ∧
      DrawnAlong 2 points options (some false) ∧
      readLine 6 other = .ok (some ⟨some 6, .polyline 3 (points ++ [⟨1, -1⟩]) options (some false)⟩) := by
  intro line other options points
  have word : firstWord line = Keyword.polyline.name := by decide
  have accepted : readLine 6 line = .ok (some ⟨some 6, .polyline 2 points options (some false)⟩) := by
    unfold line points
    rfl
  obtain ⟨n, _, _, _, same, -, drawn, further, -⟩ := readLine_trail word accepted
  cases same
  have counts : Counts (positional other) (2 + 1) := ⟨['3'], by decide, by decide⟩
  have places : Places [['1'], ['-', '1']] [⟨1, -1⟩] := .cons rfl rfl .nil
  have again : ∀ spec ∈ optionSpecs .polyline,
      lastValue? (arguments other) spec.name = lastValue? (arguments line) spec.name := by
    simp only [optionSpecs, List.forall_mem_cons]
    exact ⟨by decide, by decide, by decide, List.forall_mem_nil _⟩
  exact ⟨word, accepted, drawn, (further other 1 _ _ (by decide) counts (by decide) places rfl again).1⟩

end Script

end Rirekisho
