import Rirekisho.Drawing.Recorder
import Rirekisho.Proofs.Drawing.Invariant
import Rirekisho.Proofs.Drawing.Sequence

namespace Rirekisho

variable {α β : Type}

/-- What a sink answers to questions: answers or failures of any kind. -/
structure Replies (α : Type) where
  width (text face : String) (size : α) : Except Failure α
  natural (path : Path) : Except Failure (Size α)

/-- The sink that records and gives the replies. -/
def Sink.replying (replies : Replies α) : Sink α (Recording α) where
  newPage := do
    modify fun r => { r with pages := r.pages + 1 }
    let page := (← get).pages
    modify (·.add (.newPage page))
    return page
  drawText page text origin face size := modify (·.add (.text page text origin face size))
  drawPolyline page points closed options := modify (·.add (.polyline page points closed options))
  drawImage page path origin natural scaleX scaleY :=
    modify (·.add (.image page path origin natural scaleX scaleY))
  stringWidth text face size := do
    modify (·.add (.stringWidth text face size))
    Act.ofResult (replies.width text face size)
  imageSize path := do
    modify (·.add (.imageSize path))
    Act.ofResult (replies.natural path)
  save := do
    modify (·.add .save)
    return Path.ofText "memory.pdf"
  report report := modify fun r => { r with reports := report :: r.reports }

/-- Answers as replies, whose failures are faults. -/
def Answers.replies (answers : Answers α) : Replies α where
  width text face size := (answers.width text face size).mapError .fault
  natural path := (answers.natural path).mapError .fault

/-- Answers that tell the width of every text. -/
def Answers.measuring (width : String → String → α → α) (natural : Path → Except (Located Fault) (Size α)) :
    Answers α where
  width text face size := .ok (width text face size)
  natural := natural

/-- The point with both coordinates changed. -/
def Point.map (f : α → α) (p : Point α) : Point α := ⟨f p.x, f p.y⟩

/-- The call with the number of its page and the coordinates of its places changed. -/
def Call.map (page : Nat → Nat) (place : α → α) : Call α → Call α
  | .newPage n => .newPage (page n)
  | .text n line origin face size => .text (page n) line (origin.map place) face size
  | .polyline n points closed options =>
    .polyline (page n) (points.map (·.map place)) closed options
  | .image n path origin natural scaleX scaleY =>
    .image (page n) path (origin.map place) natural scaleX scaleY
  | .stringWidth line face size => .stringWidth line face size
  | .imageSize path => .imageSize path
  | .save => .save

@[simp] theorem Call.map_id (call : Call α) : call.map id id = call := by
  cases call <;> simp [Call.map, Point.map]

/-- The page that a call draws on. -/
def Call.drawnOn? : Call α → Option Nat
  | .text n .. | .polyline n .. | .image n .. => some n
  | _ => none

/-- The call opens a page. -/
def Call.opens : Call α → Bool
  | .newPage _ => true
  | _ => false

/-- The call is no question: it draws something or opens a page. -/
def Call.draws (call : Call α) : Bool := call.drawnOn?.isSome || call.opens

namespace Recording

/-- The calls of a later recording that an earlier one does not have yet, the first one first. -/
def since (earlier later : Recording α) : List (Call α) :=
  (later.calls.take (later.calls.length - earlier.calls.length)).reverse

/-- The calls of the one recording are the first calls of the other. -/
def GoesOn (earlier later : Recording α) : Prop := earlier.calls <:+ later.calls

theorem since_eq {earlier later : Recording α} {made : List (Call α)}
    (calls : later.calls = made.reverse ++ earlier.calls) : earlier.since later = made := by
  have count : later.calls.length - earlier.calls.length = made.reverse.length := by
    rw [calls, List.length_append]
    omega
  rw [since, count, calls, List.take_left', List.reverse_reverse]
  rfl

theorem since_congr (r : Recording α) {later other : Recording α} (calls : later.calls = other.calls) :
    r.since later = r.since other := by
  rw [since, since, calls]

theorem since_self (r : Recording α) : r.since r = [] := since_eq rfl

theorem GoesOn.refl (r : Recording α) : r.GoesOn r := List.suffix_refl r.calls

theorem GoesOn.calls {earlier later : Recording α} (goesOn : earlier.GoesOn later) :
    later.calls = (earlier.since later).reverse ++ earlier.calls := by
  obtain ⟨made, calls⟩ := goesOn
  have same : later.calls = made.reverse.reverse ++ earlier.calls := by rw [List.reverse_reverse, calls]
  rw [since_eq same, same]

theorem GoesOn.since_trans {first second third : Recording α} (begun : first.GoesOn second)
    (ended : second.GoesOn third) : first.since third = first.since second ++ second.since third := by
  apply since_eq
  rw [ended.calls, begun.calls, List.reverse_append, List.append_assoc]

/-- What two recordings have that go on from the same one can be compared after it. -/
theorem GoesOn.filter_since {r s t : Recording α} (first : r.GoesOn s) (second : r.GoesOn t)
    {p : Call α → Bool} (same : s.calls.filter p = t.calls.filter p) :
    (r.since s).filter p = (r.since t).filter p := by
  rw [first.calls, second.calls, List.filter_append, List.filter_append] at same
  have added := List.append_cancel_right same
  rw [List.filter_reverse, List.filter_reverse] at added
  exact List.reverse_injective added

theorem GoesOn.next {r₀ r next : Recording α} {call : Call α} (goesOn : r₀.GoesOn r)
    (calls : next.calls = call :: r.calls) : r₀.GoesOn next := by
  have further : r.calls <:+ next.calls := calls ▸ List.suffix_cons call r.calls
  exact List.IsSuffix.trans goesOn further

theorem GoesOn.since_next {r₀ r next : Recording α} {call : Call α} (goesOn : r₀.GoesOn r)
    (calls : next.calls = call :: r.calls) : r₀.since next = r₀.since r ++ [call] := by
  apply since_eq
  rw [calls, goesOn.calls, List.reverse_append]
  rfl

/-- The recording with a new page. -/
def opened (r : Recording α) : Recording α :=
  { r with calls := .newPage (r.pages + 1) :: r.calls, pages := r.pages + 1 }

/-- Recordings that go on from two given ones with the same calls, up to the numbers of the pages and
the coordinates of places. -/
def moved (page : Nat → Nat) (place : α → α) (r₀ t₀ : Recording α) :
    Pairing α (Recording α) (Recording α) where
  states r t := r₀.GoesOn r ∧ t₀.GoesOn t ∧
    t₀.since t = (r₀.since r).map (Call.map page place) ∧ t.pages = page r.pages
  failures := Eq
  pages m n := n = page m
  coordinates x y := y = place x

end Recording

namespace Sink

variable (answers : Answers α)

@[simp] theorem recording_newPage (r : Recording α) :
    (recording answers).newPage.outcome r = (.ok (r.pages + 1), r.opened) := rfl

@[simp] theorem recording_report (report : Report) (r : Recording α) :
    ((recording answers).report report).outcome r =
      (.ok (), { r with reports := report :: r.reports }) := rfl

theorem recording_eq_replying : recording answers = replying answers.replies := rfl

theorem replying_stringWidth (replies : Replies α) (text face : String) (size : α) (r : Recording α) :
    ((replying replies).stringWidth text face size).outcome r =
      (replies.width text face size, r.add (.stringWidth text face size)) := by
  show (Act.ofResult (replies.width text face size)).outcome _ = _
  cases replies.width text face size <;> rfl

theorem replying_imageSize (replies : Replies α) (path : Path) (r : Recording α) :
    ((replying replies).imageSize path).outcome r = (replies.natural path, r.add (.imageSize path)) := by
  show (Act.ofResult (replies.natural path)).outcome _ = _
  cases replies.natural path <;> rfl

theorem recording_stringWidth (text face : String) (size : α) (r : Recording α) :
    ((recording answers).stringWidth text face size).outcome r =
      ((answers.width text face size).mapError .fault, r.add (.stringWidth text face size)) := by
  rw [recording_eq_replying, replying_stringWidth]
  rfl

theorem recording_imageSize (path : Path) (r : Recording α) :
    ((recording answers).imageSize path).outcome r =
      ((answers.natural path).mapError .fault, r.add (.imageSize path)) := by
  rw [recording_eq_replying, replying_imageSize]
  rfl

theorem recording_ready : (recording answers).Ready where
  newPage _ := ⟨_, _, rfl⟩
  drawText _ _ _ _ _ _ := ⟨_, _, rfl⟩
  drawPolyline _ _ _ _ _ := ⟨_, _, rfl⟩
  drawImage _ _ _ _ _ _ _ := ⟨_, _, rfl⟩
  report _ _ := ⟨_, _, rfl⟩

end Sink

namespace Recording

variable {page : Nat → Nat} {place : α → α} {r₀ t₀ : Recording α}

theorem moved_points {points points' : List (Point α)}
    (along : List.Forall₂ (moved page place r₀ t₀).places points points') :
    points' = points.map (·.map place) := by
  induction along with
  | nil => rfl
  | @cons u v _ _ near _ ih =>
    obtain ⟨across, up⟩ := near
    rw [List.map_cons, ih]
    cases v
    cases across
    cases up
    rfl

/-- Requests that add a call and the changed one, and have the same outcome otherwise. -/
theorem moved_alike {a b : Act (Recording α) β} (call : Call α) {result : Except Failure β}
    (first : ∀ r, a.outcome r = (result, r.add call))
    (second : ∀ r, b.outcome r = (result, r.add (call.map page place))) :
    (moved page place r₀ t₀).Alike Eq a b := by
  rintro r t ⟨begun, begun', made, pages⟩
  have kept : (moved page place r₀ t₀).states (r.add call) (t.add (call.map page place)) := by
    refine ⟨begun.next rfl, begun'.next rfl, ?_, pages⟩
    rw [begun.since_next rfl, begun'.since_next rfl, made, List.map_append]
    rfl
  rw [first, second]
  cases result with
  | ok x => exact .ok rfl kept
  | error failure => exact .error rfl kept

variable (answers : Answers α)

theorem moved_sinks (fonts : FontRegistry) :
    (moved page place r₀ t₀).Sinks fonts (Sink.recording answers) (Sink.recording answers) := by
  constructor
  case drawText =>
    rintro p _ ⟨x, y⟩ ⟨_, _⟩ face rfl ⟨rfl, rfl⟩ _ text size
    exact moved_alike (.text p text ⟨x, y⟩ face size) (fun _ => rfl) fun _ => rfl
  case drawPolyline =>
    rintro p _ points points' rfl _ along closed options
    cases moved_points along
    exact moved_alike (.polyline p points closed options) (fun _ => rfl) fun _ => rfl
  case drawImage =>
    rintro p _ ⟨x, y⟩ ⟨_, _⟩ rfl ⟨rfl, rfl⟩ path natural scaleX scaleY
    exact moved_alike (.image p path ⟨x, y⟩ natural scaleX scaleY) (fun _ => rfl) fun _ => rfl
  case stringWidth =>
    intro face _ text size
    have answer := Sink.recording_stringWidth answers text face size
    exact moved_alike (.stringWidth text face size) answer answer
  case imageSize =>
    intro path
    have answer := Sink.recording_imageSize answers path
    exact moved_alike (.imageSize path) answer answer
  case report =>
    rintro report r t ⟨begun, begun', made, pages⟩
    exact .ok rfl ⟨begun, begun', made, pages⟩
  case unplaced => exact fun _ _ => rfl

theorem moved_newPage (next : ∀ n, page (n + 1) = page n + 1) :
    (moved page place r₀ t₀).Alike (moved page place r₀ t₀).pages (Sink.recording answers).newPage
      (Sink.recording answers).newPage := by
  rintro r t ⟨begun, begun', made, pages⟩
  have number : t.pages + 1 = page (r.pages + 1) := by rw [next, pages]
  refine .ok number ⟨begun.next rfl, begun'.next rfl, ?_, number⟩
  rw [begun.since_next rfl, begun'.since_next rfl, made, List.map_append]
  exact congrArg (fun n => (r₀.since r).map (Call.map page place) ++ [.newPage n]) number

theorem moved_self {r t : Recording α} (pages : t.pages = page r.pages) :
    (moved page place r t).states r t :=
  ⟨.refl r, .refl t, by rw [since_self, since_self]; rfl, pages⟩

/-- Computations that are alike make the same calls, up to the changes, and have the same outcome. -/
theorem moved_since {a b : Act (Recording α) β} {r t : Recording α}
    (alike : (moved page place r t).Alike Eq a b) (pages : t.pages = page r.pages) :
    (b.outcome t).1 = (a.outcome r).1 ∧
      t.since (b.outcome t).2 = (r.since (a.outcome r).2).map (Call.map page place) := by
  have agree := alike r t (moved_self pages)
  exact ⟨agree.result_eq fun _ _ same => same, agree.states.2.2.1⟩

end Recording

variable [Scalar α] (answers : Answers α) (job : Job α)

theorem Recording.moved_same_job (page : Nat → Nat) (r t : Recording α) : (moved page id r t).Jobs job job where
  fonts := rfl
  photo := rfl
  margin _ := rfl
  add d same := congrArg (fun x => x + d) same
  sub d same := congrArg (fun x => x - d) same

/-- Whatever was drawn before, commands make the same calls from a page on, up to its number. -/
theorem drawAll_moved (page : Nat → Nat) (next : ∀ n, page (n + 1) = page n + 1) (n : Nat)
    (commands : List (Command α)) (r t : Recording α) :
    (Recording.moved page id r t).Alike (Recording.moved page id r t).pages
      (drawAll (.recording answers) job n commands) (drawAll (.recording answers) job (page n) commands) :=
  Pairing.drawAll_alike (Recording.moved_sinks answers _) (Recording.moved_same_job job page r t)
    (fun _ _ _ _ same => same ▸ rfl) (Recording.moved_newPage answers next) rfl commands
    fun command _ => .refl job.record command.directive

/-- Rendering is drawing from a new page on: it has the same calls, and fails in the same way. -/
theorem render_recording (commands : List (Command α)) (r : Recording α) :
    let drawn := (drawAll (.recording answers) job (r.pages + 1) commands).outcome r.opened
    let rendered := (render (.recording answers) job commands).outcome r
    rendered.1 = drawn.1.map (fun _ => ()) ∧ rendered.2.calls = drawn.2.calls ∧
      rendered.2.pages = drawn.2.pages := by
  intro drawn rendered
  have opening := Sink.recording_newPage answers r
  cases run : drawn with
  | mk result t =>
    cases result with
    | ok last =>
      obtain ⟨u, finished, reported⟩ := render_ok (Sink.recording_ready answers) opening run
      cases reported
      rw [show rendered = _ from finished]
      exact ⟨rfl, rfl, rfl⟩
    | error failure =>
      rw [show rendered = _ from render_error opening run]
      exact ⟨rfl, rfl, rfl⟩

theorem drawAll_goesOn (page : Nat) (commands : List (Command α)) (r : Recording α) :
    r.GoesOn ((drawAll (.recording answers) job page commands).outcome r).2 := by
  have alike := drawAll_moved answers job id (fun _ => rfl) page commands r r
  exact (alike r r (Recording.moved_self rfl)).states.1

theorem render_goesOn (commands : List (Command α)) (r : Recording α) :
    r.GoesOn ((render (.recording answers) job commands).outcome r).2 := by
  have opening : r.GoesOn r.opened := (Recording.GoesOn.refl r).next rfl
  have drawn := drawAll_goesOn answers job (r.pages + 1) commands r.opened
  have calls := (render_recording answers job commands r).2.1
  rw [Recording.GoesOn, calls]
  exact List.IsSuffix.trans opening drawn

end Rirekisho
