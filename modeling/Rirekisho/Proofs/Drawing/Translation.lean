import Rirekisho.Proofs.Drawing.Document
import Rirekisho.Proofs.Drawing.Recording

namespace Rirekisho

variable {α β γ : Type} [Scalar α]

/-- The points of a length in millimetres: 72 of them are an inch, which is 2.54 centimetres. -/
def inPoints (millimetres : α) : α := millimetres * (72.0 / 2.54 * 0.1)

/-- The path that is drawn for a polyline: from its first point to each further one, and back if it is
closed. -/
def outline (closed : Bool) : List (Point α) → List (PathStep α)
  | [] => []
  | first :: rest =>
    .move (inPoints first.x) (inPoints first.y) ::
      rest.map (fun p => .line (inPoints p.x) (inPoints p.y)) ++ if closed then [.close] else []

/-- A call in the terms of the canvas. The canvas begins with a page, questions are not put to it, and
the style of everything that is drawn is set before it. -/
def Call.translated : Call α → List (CanvasCall α)
  | .newPage page => if page = 1 then [] else [.nextPage]
  | .text _ line origin face size => [.font face size, .text (inPoints origin.x) (inPoints origin.y) line]
  | .polyline _ points closed options =>
    [.lineWidth options.width, match options.style with | .solid => .solid | .dashed => .dashes 1.0 1.0,
      .path (outline closed points)]
  | .image _ path origin natural scaleX scaleY =>
    [.image path (inPoints origin.x) (inPoints origin.y) (inPoints (natural.width * scaleX))
      (inPoints (natural.height * scaleY))]
  | .stringWidth .. | .imageSize _ => []
  | .save => [.save]

/-- The replies are those of a document, to the questions that a job can lead to. -/
structure Replies.Of (replies : Replies α) (document : Document α) (job : Job α) : Prop where
  width : ∀ face ∈ job.fonts.names, ∀ text size, replies.width text face size =
    ((Document.stringWidth text face size).outcome document).1
  natural : replies.natural job.photo = ((Document.imageSize job.photo).outcome document).1

namespace Document

/-- The document has been drawn from the given one, with the calls of the recording and on its last
page. -/
def Transcribes (begun d : Document α) (r : Recording α) : Prop :=
  ∃ reports, d = { begun.after (r.calls.reverse.flatMap Call.translated) with
    pages := r.pages, reports := reports }

namespace Transcribes

variable {begun d : Document α} {r : Recording α}

theorem pages (drawn : begun.Transcribes d r) : d.pages = r.pages := by
  obtain ⟨_, rfl⟩ := drawn
  rfl

theorem disk (drawn : begun.Transcribes d r) : d.disk = begun.disk := by
  obtain ⟨_, rfl⟩ := drawn
  rfl

theorem resolution (drawn : begun.Transcribes d r) : d.resolution = begun.resolution := by
  obtain ⟨_, rfl⟩ := drawn
  rfl

theorem textWidth (drawn : begun.Transcribes d r) : d.textWidth = begun.textWidth := by
  obtain ⟨_, rfl⟩ := drawn
  rfl

theorem finds (drawn : begun.Transcribes d r) (face : String) : d.finds face = begun.finds face := by
  obtain ⟨_, rfl⟩ := drawn
  rfl

theorem calls (drawn : begun.Transcribes d r) :
    d.calls.reverse = begun.calls.reverse ++ r.calls.reverse.flatMap Call.translated := by
  obtain ⟨_, rfl⟩ := drawn
  simp only [after, List.reverse_append, List.reverse_reverse]

theorem add (drawn : begun.Transcribes d r) (call : Call α) :
    begun.Transcribes (d.after call.translated) (r.add call) := by
  obtain ⟨reports, rfl⟩ := drawn
  refine ⟨reports, ?_⟩
  simp only [after, Recording.add, List.reverse_cons, List.flatMap_append, List.flatMap_singleton,
    List.reverse_append, List.append_assoc]

theorem turn (drawn : begun.Transcribes d r) (page : Nat) :
    begun.Transcribes { d with pages := page } { r with pages := page } := by
  obtain ⟨reports, rfl⟩ := drawn
  exact ⟨reports, rfl⟩

theorem report (drawn : begun.Transcribes d r) (reports : List Report) (others : List Report) :
    begun.Transcribes { d with reports := reports } { r with reports := others } := by
  obtain ⟨_, rfl⟩ := drawn
  exact ⟨reports, rfl⟩

end Transcribes

/-- A document and a recording, both of them on the page with the given number. -/
def transcribing (begun : Document α) (page : Nat) : Pairing α (Document α) (Recording α) where
  states d r := r.pages = page ∧ begun.Transcribes d r
  failures f g := f = g ∧ ¬ f.OfClosedPage
  pages m n := m = page ∧ n = page
  coordinates := Eq

variable {begun : Document α} {page : Nat}

/-- A request that makes the calls for a call of the recording. -/
theorem transcribing_follows {a : Act (Document α) Unit} {b : Act (Recording α) Unit} (call : Call α)
    (reaches : ∀ d r, d.pages = page → begun.Transcribes d r →
      a.Reaches Failure.OfCanvas d () (d.after call.translated))
    (adds : ∀ r, b.outcome r = (.ok (), r.add call)) :
    (begun.transcribing page).Follows Failure.OfCanvas Eq a b := by
  rintro d r ⟨here, drawn⟩
  rcases reaches d r (drawn.pages.trans here) drawn with run | stopped
  · rw [run, adds]
    exact Or.inl (.ok rfl ⟨here, drawn.add call⟩)
  · exact Or.inr stopped

/-- A question to which the recording gets the reply of the document. -/
theorem transcribing_ask {results : β → β → Prop} {a : Act (Document α) β} {b : Act (Recording α) β}
    {reply : Except Failure β} (call : Call α) (silent : call.translated = [])
    (asked : ∀ d r, begun.Transcribes d r → a.outcome d = (reply, d))
    (told : ∀ r, b.outcome r = (reply, r.add call)) (good : ∀ x, reply = .ok x → results x x)
    (fresh : ∀ failure, reply = .error failure → ¬ failure.OfClosedPage) :
    (begun.transcribing page).Follows Failure.OfCanvas results a b := by
  rintro d r ⟨here, drawn⟩
  have kept : (begun.transcribing page).states d (r.add call) := by
    have added := drawn.add call
    rw [silent] at added
    exact ⟨here, added⟩
  rw [asked d r drawn, told]
  cases reply with
  | ok x => exact Or.inl (.ok (good x rfl) kept)
  | error failure => exact Or.inl (.error ⟨rfl, fresh failure rfl⟩ kept)

variable {job : Job α} {replies : Replies α}

/-- Requests to a document and to a recording with its replies: all faces are found, and the photo is
drawn only if it is an image. -/
theorem transcribing_sinks (finds : ∀ face ∈ job.fonts.names, begun.finds face) (same : replies.Of begun job) :
    (begun.transcribing page).SinkFollows Failure.OfCanvas (fun _ => (pixels? begun.disk job.photo).isSome)
      job Document.sink (.replying replies) := by
  constructor
  case drawText =>
    rintro _ _ o o' face ⟨rfl, rfl⟩ place member text size
    cases Pairing.places_eq rfl place
    refine transcribing_follows (.text _ text o face size) (fun d r here drawn => ?_) fun _ => rfl
    exact drawText_reaches here (drawn.finds face ▸ finds face member) text o size
  case drawPolyline =>
    rintro _ _ points points' ⟨rfl, rfl⟩ some along closed options
    cases Pairing.points_eq rfl along
    cases points with
    | nil => exact absurd rfl some
    | cons first rest =>
      refine transcribing_follows (.polyline _ (first :: rest) closed options) (fun d r here drawn => ?_)
        fun _ => rfl
      exact drawPolyline_reaches here first rest closed options
  case drawImage =>
    rintro _ _ o o' natural ⟨rfl, rfl⟩ place image scaleX scaleY
    cases Pairing.places_eq rfl place
    refine transcribing_follows (.image _ job.photo o natural scaleX scaleY) (fun d r here drawn => ?_)
      fun _ => rfl
    exact drawImage_reaches here (drawn.disk ▸ image) o natural scaleX scaleY
  case stringWidth =>
    intro face member text size
    have known := finds face member
    have reply := same.width face member text size
    rw [stringWidth_outcome known] at reply
    have told := Sink.replying_stringWidth replies text face size
    rw [reply] at told
    refine transcribing_ask (.stringWidth text face size) rfl (fun d r drawn => ?_) told (fun _ _ => rfl)
      fun _ failed => nomatch failed
    rw [← drawn.textWidth]
    exact stringWidth_outcome (drawn.finds face ▸ known) text size
  case imageSize =>
    have reply : replies.natural job.photo = naturalSize begun.disk begun.resolution job.photo :=
      same.natural.trans (congrArg Prod.fst (imageSize_outcome begun job.photo))
    have told := Sink.replying_imageSize replies job.photo
    rw [reply] at told
    -- a size is told of images only, so that what is drawn later can be read
    have sized := naturalSize_cases begun.disk begun.resolution job.photo
    refine transcribing_ask (.imageSize job.photo) rfl (fun d r drawn => ?_) told (fun size found => ?_)
      fun failure found => ?_
    · rw [← drawn.disk, ← drawn.resolution]
      exact imageSize_outcome d job.photo
    · rw [found] at sized
      exact ⟨rfl, sized⟩
    · rw [found] at sized
      exact sized
  case report =>
    rintro report _ d r ⟨here, drawn⟩
    exact Or.inl (.ok rfl ⟨here, drawn.report _ _⟩)
  case unplaced =>
    rintro fault own field
    refine ⟨rfl, ?_⟩
    rintro ⟨_, _, _, _, closed⟩
    cases closed
    cases own

/-- Outcomes of a drawing on a document and on a recording: the same ones, after the same drawing, with
pages that are the last ones; unless the canvas has stopped the document. -/
inductive InStep (begun : Document α) (results : β → Recording α → Prop) :
    Except Failure β × Document α → Except Failure β × Recording α → Prop
  | ok {x d r} : results x r → begun.Transcribes d r → InStep begun results (.ok x, d) (.ok x, r)
  | error {failure d r} : ¬ failure.OfClosedPage → begun.Transcribes d r →
    InStep begun results (.error failure, d) (.error failure, r)
  | stopped {failure d v} : failure.OfCanvas → InStep begun results (.error failure, d) v

theorem InStep.fresh {results : β → Recording α → Prop} {u : Except Failure β × Document α}
    {v : Except Failure β × Recording α} (step : begun.InStep results u v) {failure : Failure}
    (failed : u.1 = .error failure) : ¬ failure.OfClosedPage := by
  cases step with
  | ok _ _ => cases failed
  | error fresh _ =>
    cases failed
    exact fresh
  | stopped stop =>
    cases failed
    exact stop.not_ofClosedPage

theorem InStep.bind {results : β → Recording α → Prop} {further : γ → Recording α → Prop}
    {a : Act (Document α) β} {b : Act (Recording α) β} {next : β → Act (Document α) γ}
    {after : β → Act (Recording α) γ} {d : Document α} {r : Recording α}
    (first : begun.InStep results (a.outcome d) (b.outcome r))
    (rest : ∀ x d r, results x r → begun.Transcribes d r →
      begun.InStep further ((next x).outcome d) ((after x).outcome r)) :
    begun.InStep further ((a >>= next).outcome d) ((b >>= after).outcome r) := by
  rw [Act.outcome_bind, Act.outcome_bind]
  generalize a.outcome d = u at first ⊢
  generalize b.outcome r = v at first ⊢
  cases first with
  | ok holds drawn => exact rest _ _ _ holds drawn
  | error fresh drawn => exact .error fresh drawn
  | stopped stop => exact .stopped stop

theorem InStep.located {results : β → Recording α → Prop} {a : Act (Document α) β}
    {b : Act (Recording α) β} {d : Document α} {r : Recording α} (line : Option Int) (keyword : Option String)
    (inner : begun.InStep results (a.outcome d) (b.outcome r)) :
    begun.InStep results ((a.located line keyword).outcome d) ((b.located line keyword).outcome r) := by
  rw [Act.outcome_located, Act.outcome_located]
  generalize a.outcome d = u at inner ⊢
  generalize b.outcome r = v at inner ⊢
  cases inner with
  | ok holds drawn => exact .ok holds drawn
  | error fresh drawn => exact .error (fun stale => fresh stale.of_locate) drawn
  | stopped stop => exact .stopped (stop.locate line keyword)

theorem inStep_of_follows {a : Act (Document α) Nat} {b : Act (Recording α) Nat} {d : Document α}
    {r : Recording α} (drawn : begun.Transcribes d r)
    (follows : (begun.transcribing r.pages).Follows Failure.OfCanvas (begun.transcribing r.pages).pages a b) :
    begun.InStep (fun page r => r.pages = page) (a.outcome d) (b.outcome r) := by
  rcases follows d r ⟨rfl, drawn⟩ with agree | ⟨failure, stopped, stop⟩
  · generalize a.outcome d = u at agree ⊢
    generalize b.outcome r = v at agree ⊢
    cases agree with
    | ok pages kept =>
      obtain ⟨rfl, rfl⟩ := pages
      exact .ok kept.1 kept.2
    | error failures kept =>
      obtain ⟨rfl, fresh⟩ := failures
      exact .error fresh kept.2
  · cases run : a.outcome d with
    | mk result t =>
      rw [run] at stopped
      cases stopped
      exact .stopped stop

/-- A new page is one for both: the canvas goes on to the next page unless it is the first one. -/
theorem newPage_inStep {d : Document α} {r : Recording α} (drawn : begun.Transcribes d r) :
    begun.InStep (fun page r => r.pages = page) ((Document.sink : Sink α _).newPage.outcome d)
      ((Sink.replying replies).newPage.outcome r) := by
  have turned : (if d.pages = 0 then [] else [.nextPage]) =
      (Call.newPage (r.pages + 1) : Call α).translated := by
    simp only [drawn.pages, Call.translated, Nat.add_eq_right]
  have opened : (Document.sink : Sink α _).newPage.outcome d = _ := newPage_outcome d
  rw [opened, turned, drawn.pages]
  exact .ok rfl ((drawn.add _).turn _)

theorem report_inStep (report : Report) {d : Document α} {r : Recording α} (drawn : begun.Transcribes d r) :
    begun.InStep (fun _ _ => True) (((Document.sink : Sink α _).report report).outcome d)
      (((Sink.replying replies).report report).outcome r) :=
  .ok trivial (drawn.report _ _)

section
variable (finds : ∀ face ∈ job.fonts.names, begun.finds face) (same : replies.Of begun job)
include finds same

theorem draw_inStep (command : Command α) {d : Document α} {r : Recording α}
    (drawn : begun.Transcribes d r) :
    begun.InStep (fun page r => r.pages = page) ((command.draw Document.sink job r.pages).outcome d)
      ((command.draw (.replying replies) job r.pages).outcome r) := by
  refine .located _ _ ?_
  -- all directives but this one are drawn on one page, so that one pairing is kept from end to end
  by_cases opens : command.directive = .newPage
  · rw [opens]
    exact newPage_inStep drawn
  · exact inStep_of_follows drawn (Pairing.draw_follows (transcribing_sinks finds same) (.same rfl job)
      ⟨rfl, rfl⟩ command.directive (.refl job.record _) fun opening => absurd opening opens)

theorem drawAll_inStep (commands : List (Command α)) {d : Document α} {r : Recording α}
    (drawn : begun.Transcribes d r) :
    begun.InStep (fun page r => r.pages = page) ((drawAll Document.sink job r.pages commands).outcome d)
      ((drawAll (.replying replies) job r.pages commands).outcome r) := by
  induction commands generalizing d r with
  | nil => exact .ok rfl drawn
  | cons command rest ih =>
    refine (draw_inStep finds same command drawn).bind fun page d r here drawn => ?_
    cases here
    exact ih drawn

theorem render_inStep (commands : List (Command α)) {d : Document α} {r : Recording α}
    (drawn : begun.Transcribes d r) :
    begun.InStep (fun _ _ => True) ((render Document.sink job commands).outcome d)
      ((render (.replying replies) job commands).outcome r) := by
  refine (newPage_inStep drawn).bind fun page d r here drawn => ?_
  cases here
  exact (drawAll_inStep finds same commands drawn).bind fun _ _ _ _ drawn => report_inStep _ drawn

end

end Document

/-- A drawing on a document whose faces have been registered, and on a recording that gets its replies:
unless the canvas cannot write a number, both end in the same way, and the calls on the canvas after
those that begin it are the translated ones of the recording. No page is drawn on after its end. -/
theorem render_document {file : Path} {width height : α} {title : String} {resolution : α}
    {typecase : Typecase α} {disk : Disk} {job : Job α} {document : Document α} {replies : Replies α}
    (registered : (Document.register job.fonts).outcome
      (.blank file width height title resolution typecase disk) = (.ok (), document))
    (same : replies.Of document job) (commands : List (Command α)) :
    let drawn := (render Document.sink job commands).outcome document
    let recorded := (render (.replying replies) job commands).outcome {}
    (∀ failure, drawn.1 = .error failure → ¬ failure.OfClosedPage) ∧
      ((∀ failure, drawn.1 = .error failure → ¬ failure.OfCanvas) →
        drawn.1 = recorded.1 ∧ drawn.2.calls.reverse =
          .open file (inPoints width) (inPoints height) :: .title title ::
            recorded.2.calls.reverse.flatMap Call.translated) := by
  intro drawn recorded
  obtain ⟨blank, finds⟩ := Document.register_finds registered
  have begun : document.Transcribes document {} := ⟨document.reports, by rw [blank]; rfl⟩
  have opened : document.calls.reverse = [.open file (inPoints width) (inPoints height), .title title] := by
    rw [blank]
    rfl
  have step : document.InStep (fun _ _ => True) drawn recorded :=
    Document.render_inStep finds same commands begun
  clear_value drawn recorded
  refine ⟨fun failure => step.fresh, fun written => ?_⟩
  cases step with
  | ok _ transcribed => exact ⟨rfl, by rw [transcribed.calls, opened]; rfl⟩
  | error _ transcribed => exact ⟨rfl, by rw [transcribed.calls, opened]; rfl⟩
  | stopped stop => exact absurd stop (written _ rfl)

/-- A text, a new page and a dashed box, with the width and the size that the document itself tells. -/
theorem render_document_box :
    let blank : Document Rat := .blank (Path.ofText "cv.pdf") 210 297 "CV" 300 (.courier []) (.empty [])
    let job : Job Rat := { Job.bare with fonts := ⟨[("Courier", Path.ofText "courier.ttf")]⟩ }
    let commands : List (Command Rat) :=
      [⟨some 1, .string ⟨20, 270⟩ "A" { givenFace := some "Courier" }⟩, ⟨some 2, .newPage⟩,
        ⟨some 3, .box ⟨20, 30⟩ ⟨40, 10⟩ { givenStyle := some .dashed }⟩]
    let document := ((Document.register job.fonts).outcome blank).2
    let replies : Replies Rat := {
      width := fun text face size => ((Document.stringWidth text face size).outcome document).1
      natural := fun path => ((Document.imageSize path).outcome document).1 }
    let drawn := (render Document.sink job commands).outcome document
    let recorded := (render (.replying replies) job commands).outcome {}
    drawn.1 = .ok () ∧ recorded.1 = .ok () ∧ drawn.2.calls.reverse =
      .open (Path.ofText "cv.pdf") (inPoints 210) (inPoints 297) :: .title "CV" ::
        recorded.2.calls.reverse.flatMap Call.translated := by
  intro blank job commands document replies drawn recorded
  have registered : (Document.register job.fonts).outcome blank = (.ok (), document) := rfl
  have same : replies.Of document job := ⟨fun _ _ _ _ => rfl, rfl⟩
  have ended : drawn.1 = .ok () := rfl
  obtain ⟨result, calls⟩ := (render_document registered same commands).2
    fun failure failed => nomatch ended.symm.trans failed
  exact ⟨ended, result.symm.trans ended, calls⟩

end Rirekisho
