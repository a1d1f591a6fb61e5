import Rirekisho.Proofs.Drawing.Reports

namespace Rirekisho

variable {α β γ : Type}

/-- The page is ended by the call, and the next one begun. -/
def CanvasCall.turns : CanvasCall α → Bool
  | .nextPage => true
  | _ => false

namespace Document

/-- What a document and its pages can be asked for. -/
inductive Request (α : Type) where
  | newPage
  | text (page : Nat) (line : String) (origin : Point α) (face : String) (size : α)
  | polyline (page : Nat) (points : List (Point α)) (closed : Bool) (options : LineOptions α)
  | image (page : Nat) (file : Path) (origin : Point α) (natural : Size α) (scaleX scaleY : α)
  | save
  deriving Repr

namespace Request

/-- The page that is to be drawn on. -/
def page? : Request α → Option Nat
  | .text page .. | .polyline page .. | .image page .. => some page
  | _ => none

/-- The number of pages after the request. -/
def pagesAfter (pages : Nat) : Request α → Nat
  | .newPage => pages + 1
  | .save => max pages 1
  | _ => pages

/-- What is done with the document. The result is the number of the page that is handed out. -/
def perform [Scalar α] : Request α → Act (Document α) (Option Nat)
  | .newPage => some <$> Document.newPage
  | .text page line origin face size => drawText page line origin face size >>= fun _ => pure none
  | .polyline page points closed options => drawPolyline page points closed options >>= fun _ => pure none
  | .image page file origin natural scaleX scaleY =>
    drawImage page file origin natural scaleX scaleY >>= fun _ => pure none
  | .save => Document.save >>= fun _ => pure none

end Request

/-- The pages that are opened on a document without pages. -/
def pagesOpened (requests : List (Request α)) : Nat := requests.foldl Request.pagesAfter 0

/-- The document after the requests: one that fails is followed by the next. -/
def asked [Scalar α] (d : Document α) (requests : List (Request α)) : Document α :=
  requests.foldl (fun d request => (request.perform.outcome d).2) d

/-- From the one document to the other, calls have been added to those on the canvas, and there are as many turns
among them as it takes for the pages that have been added. -/
def ExtendsTo (d e : Document α) : Prop :=
  ∃ made, e.calls = made ++ d.calls ∧ made.countP CanvasCall.turns + (d.pages - 1) = e.pages - 1

theorem ExtendsTo.refl (d : Document α) : d.ExtendsTo d := ⟨[], rfl, Nat.zero_add _⟩

theorem ExtendsTo.trans {d e f : Document α} (first : d.ExtendsTo e) (second : e.ExtendsTo f) :
    d.ExtendsTo f := by
  obtain ⟨made, calls, turns⟩ := first
  obtain ⟨more, calls', turns'⟩ := second
  refine ⟨more ++ made, by rw [calls', calls, List.append_assoc], ?_⟩
  rw [List.countP_append]
  omega

/-- The computation adds calls, without a turn among them, and reports. Nothing else of the document is changed,
whether the computation succeeds or not. -/
def StaysOnPage (act : Act (Document α) β) : Prop :=
  ∀ d, ∃ made reports, (act.outcome d).2 = { d with calls := made ++ d.calls, reports := reports } ∧
    made.countP CanvasCall.turns = 0

namespace StaysOnPage

theorem bind {act : Act (Document α) β} {next : β → Act (Document α) γ} (first : StaysOnPage act)
    (rest : ∀ x, StaysOnPage (next x)) : StaysOnPage (act >>= next) := by
  intro d
  obtain ⟨made, reports, begun, still⟩ := first d
  cases run : act.outcome d with
  | mk result e =>
    rw [run] at begun
    cases begun
    cases result with
    | error failure =>
      rw [Act.outcome_bind_error run]
      exact ⟨made, reports, rfl, still⟩
    | ok x =>
      rw [Act.outcome_bind_ok run]
      obtain ⟨more, others, further, still'⟩ := rest x { d with calls := made ++ d.calls, reports := reports }
      refine ⟨more ++ made, others, by rw [further, List.append_assoc], ?_⟩
      rw [List.countP_append, still', still]

theorem parts : Compositional (α := α) StaysOnPage where
  pure _ d := ⟨[], d.reports, rfl, rfl⟩
  throw _ d := ⟨[], d.reports, rfl, rfl⟩
  bind := bind
  get _ rest d := rest d d

theorem draw {call : CanvasCall α} (other : call.turns = false) : StaysOnPage (draw call) := by
  refine fun d => ⟨[call], d.reports, rfl, ?_⟩
  rw [List.countP_singleton, if_neg (by rw [other]; exact Bool.false_ne_true)]

theorem extendsTo {act : Act (Document α) β} (stays : StaysOnPage act) (d : Document α) :
    (act.outcome d).2.pages = d.pages ∧ d.ExtendsTo (act.outcome d).2 := by
  obtain ⟨made, reports, after, still⟩ := stays d
  rw [after]
  exact ⟨rfl, made, rfl, by rw [still, Nat.zero_add]⟩

variable [Scalar α]

theorem drawText (page : Nat) (text : String) (origin : Point α) (face : String) (size : α) :
    StaysOnPage (drawText page text origin face size) := parts.drawText (draw rfl) (draw rfl) page

theorem drawPolyline (page : Nat) (points : List (Point α)) (closed : Bool) (options : LineOptions α) :
    StaysOnPage (drawPolyline page points closed options) := by
  have unturned : (options.style.canvas : CanvasCall α).turns = false := by cases options.style <;> rfl
  exact parts.drawPolyline (draw rfl) (draw unturned) (fun _ => draw rfl) page points closed

theorem drawImage (page : Nat) (file : Path) (origin : Point α) (natural : Size α) (scaleX scaleY : α) :
    StaysOnPage (drawImage page file origin natural scaleX scaleY) :=
  parts.drawImage (fun _ _ _ _ => draw rfl) page origin natural scaleX scaleY

/-- What draws on a page stays on it. -/
theorem perform {request : Request α} {page : Nat} (drawing : request.page? = some page) :
    StaysOnPage request.perform := by
  cases request with
  | text p line origin face size => exact (drawText p line origin face size).bind fun _ => parts.pure none
  | polyline p points closed options => exact (drawPolyline p points closed options).bind fun _ => parts.pure none
  | image p file origin natural scaleX scaleY =>
    exact (drawImage p file origin natural scaleX scaleY).bind fun _ => parts.pure none
  | newPage => cases drawing
  | save => cases drawing

end StaysOnPage

section
variable [Scalar α] {d : Document α}

theorem asked_append (d : Document α) (requests more : List (Request α)) :
    d.asked (requests ++ more) = (d.asked requests).asked more := List.foldl_append

theorem newPage_perform (d : Document α) : (Request.newPage : Request α).perform.outcome d =
    (.ok (some (d.pages + 1)), { d.after (if d.pages = 0 then [] else [.nextPage]) with pages := d.pages + 1 }) :=
  Act.outcome_bind_ok (newPage_outcome d) _

theorem save_perform (d : Document α) : ((Request.save : Request α).perform.outcome d).2.pages = max d.pages 1 ∧
    ((Request.save : Request α).perform.outcome d).2.calls = .save :: d.calls := by
  obtain ⟨saved, run, -, calls, pages, -⟩ := save_outcome d
  have performed : ((Request.save : Request α).perform.outcome d).2 = saved := by
    rw [Request.perform, Act.outcome_bind_pure, run]
  rw [performed]
  exact ⟨pages, calls⟩

/-- What a request adds to a document. -/
theorem perform_extends (request : Request α) (d : Document α) :
    (request.perform.outcome d).2.pages = request.pagesAfter d.pages ∧ d.ExtendsTo (request.perform.outcome d).2 := by
  cases request with
  | newPage =>
    rw [newPage_perform]
    refine ⟨rfl, (if d.pages = 0 then [] else [.nextPage]).reverse, rfl, ?_⟩
    -- the first page is there from the beginning
    by_cases first : d.pages = 0
    · rw [if_pos first, first]
      rfl
    · rw [if_neg first]
      exact Nat.add_sub_cancel' (Nat.pos_of_ne_zero first)
  | save =>
    obtain ⟨pages, calls⟩ := save_perform d
    refine ⟨pages, [.save], calls, ?_⟩
    rw [pages, List.countP_singleton, if_neg (by exact Bool.false_ne_true)]
    omega
  | text | polyline | image => exact (StaysOnPage.perform rfl).extendsTo d

/-- What a sequence of requests adds to a document. -/
theorem asked_extends (requests : List (Request α)) (d : Document α) :
    (d.asked requests).pages = requests.foldl Request.pagesAfter d.pages ∧ d.ExtendsTo (d.asked requests) := by
  induction requests generalizing d with
  | nil => exact ⟨rfl, .refl d⟩
  | cons request rest ih =>
    obtain ⟨pages, begun⟩ := perform_extends request d
    obtain ⟨pages', further⟩ := ih (request.perform.outcome d).2
    refine ⟨?_, begun.trans further⟩
    rw [pages] at pages'
    exact pages'

/-- Nothing is drawn on a page that is not the last one, and nothing else is done. -/
theorem perform_closed {request : Request α} {page : Nat} (drawing : request.page? = some page)
    (other : page ≠ d.pages) : request.perform.outcome d = (.error (Fault.closedPage page).toFailure, d) := by
  have closed : (guardPage page).outcome d = (.error (Fault.closedPage page).toFailure, d) := by
    rw [guardPage_outcome, if_neg other.symm]
  cases request with
  | text | polyline | image =>
    cases drawing
    exact Act.outcome_bind_error (Act.outcome_bind_error closed _) _
  | newPage => cases drawing
  | save => cases drawing

/-- A document whose faces have been registered is without pages and its canvas without turns. -/
theorem register_unpaged {fonts : FontRegistry} {file : Path} {width height resolution : α} {title : String}
    {typecase : Typecase α} {disk : Disk} {start : Document α}
    (made : (register fonts).outcome (.blank file width height title resolution typecase disk) = (.ok (), start)) :
    start.pages = 0 ∧ start.calls.countP CanvasCall.turns = 0 := by
  rw [(register_finds made).1]
  exact ⟨rfl, rfl⟩

/-- Of a document made for a file and asked for anything: the pages are those that have been opened and the next one
is numbered after them, there is a turn before every page but the first, saving opens a page only if there is none,
and a page can be drawn on only while it is the last. What is drawn on it is followed by the calls made later, the
turn from it to the next page among them, and preceded by the turns up to it. -/
theorem asked_pages {fonts : FontRegistry} {file : Path} {width height resolution : α} {title : String}
    {typecase : Typecase α} {disk : Disk} {start : Document α}
    (made : (register fonts).outcome (.blank file width height title resolution typecase disk) = (.ok (), start))
    (requests : List (Request α)) :
    let d := start.asked requests
    d.pages = pagesOpened requests ∧
    (Request.newPage.perform.outcome d).1 = .ok (some (pagesOpened requests + 1)) ∧
    d.calls.countP CanvasCall.turns = d.pages - 1 ∧
    (Request.save.perform.outcome d).2.pages = max d.pages 1 ∧
    (Request.save.perform.outcome d).2.calls = .save :: d.calls ∧
    ∀ (request : Request α) (page : Nat), request.page? = some page →
      (page ≠ d.pages → request.perform.outcome d = (.error (Fault.closedPage page).toFailure, d) ∧
        (Fault.closedPage page).family = .structural) ∧
      ∀ x e, request.perform.outcome d = (.ok x, e) → page = d.pages ∧
        ∃ drawn, e.calls = drawn ++ d.calls ∧ drawn.countP CanvasCall.turns = 0 ∧
          d.calls.countP CanvasCall.turns = page - 1 ∧
          ∀ more, ∃ later, (start.asked (requests ++ request :: more)).calls = later ++ drawn ++ d.calls := by
  intro d
  obtain ⟨unpaged, unturned⟩ := register_unpaged made
  obtain ⟨pages, calls, added, turns⟩ := asked_extends requests start
  rw [unpaged] at pages turns
  have turned : d.calls.countP CanvasCall.turns = d.pages - 1 := by
    rw [added, List.countP_append, unturned]
    exact turns
  obtain ⟨kept, saved⟩ := save_perform d
  refine ⟨pages, ?_, turned, kept, saved, fun request page drawing => ⟨fun other => ?_, ?_⟩⟩
  · rw [newPage_perform, ← show d.pages = pagesOpened requests from pages]
  · exact ⟨perform_closed drawing other, rfl⟩
  · intro x e drawn
    have last : page = d.pages := by
      by_contra other
      cases (perform_closed drawing other).symm.trans drawn
    obtain ⟨shown, reports, after, still⟩ := StaysOnPage.perform drawing d
    rw [drawn] at after
    have new : e.calls = shown ++ d.calls := by rw [show e = _ from after]
    refine ⟨last, shown, new, still, by rw [turned, last], fun more => ?_⟩
    -- what is asked for later starts from the calls with the drawing and only adds to them
    obtain ⟨later, calls', -⟩ := (asked_extends more e).2
    refine ⟨later, ?_⟩
    have onward : start.asked (requests ++ request :: more) = e.asked more := by
      rw [asked_append]
      exact congrArg (fun outcome => asked outcome.2 more) drawn
    rw [onward, calls', new, List.append_assoc]

end

/-- After two pages have been opened and saved, lines are drawn on the second one, and not on the first. -/
theorem asked_pages_lines :
    let start : Document Rat := .blank (Path.ofText "cv.pdf") 210 297 "CV" 75 (.courier []) (.empty [])
    let d := start.asked [.newPage, .newPage, .save]
    let lines (page : Nat) : Request Rat := .polyline page [⟨0, 0⟩, ⟨5, 5⟩] false {}
    (register ⟨[]⟩).outcome start = (.ok (), start) ∧ d.pages = 2 ∧ d.calls.countP CanvasCall.turns = 1 ∧
      (lines 1).perform.outcome d = (.error (Fault.closedPage 1).toFailure, d) ∧
      ∃ drawn, ((lines 2).perform.outcome d).2.calls = drawn ++ d.calls ∧ drawn.countP CanvasCall.turns = 0 := by
  intro start d lines
  have made : (register ⟨[]⟩).outcome start = (.ok (), start) := rfl
  obtain ⟨pages, -, turns, -, -, draws⟩ := asked_pages made [.newPage, .newPage, .save]
  have drawn : ((lines 2).perform.outcome d).1 = .ok none := by decide +kernel
  obtain ⟨-, new, calls, still, -⟩ := (draws (lines 2) 2 rfl).2 none _ (Prod.ext drawn rfl)
  have other : 1 ≠ d.pages := by
    rw [pages]
    decide
  exact ⟨made, pages, turns.trans (congrArg (· - 1) pages), ((draws (lines 1) 1 rfl).1 other).1, new, calls, still⟩

end Document

end Rirekisho
