import Rirekisho.Proofs.Drawing.Recording

namespace Rirekisho

variable {α β : Type}

/-- The command opens a page. -/
def Command.opensPage (command : Command α) : Bool := command.directive.keyword == .newPage

/-- How many pages the commands open. -/
def newPages (commands : List (Command α)) : Nat := commands.countP Command.opensPage

namespace Recording

/-- The recording goes on from another one without a new page, and draws on one page only. -/
def OnPage (page : Nat) (r₀ r : Recording α) : Prop :=
  r₀.GoesOn r ∧ (∀ call ∈ r₀.since r, ∀ n ∈ call.drawnOn?, n = page) ∧ r.pages = r₀.pages

/-- As many pages have been opened as the number of the last one says. -/
def Numbered (r : Recording α) : Prop := r.pages = r.calls.countP Call.opens

theorem OnPage.add {page : Nat} {r₀ r : Recording α} (kept : OnPage page r₀ r) {call : Call α}
    (here : ∀ n ∈ call.drawnOn?, n = page) : OnPage page r₀ (r.add call) := by
  obtain ⟨begun, drawn, pages⟩ := kept
  refine ⟨begun.next rfl, ?_, pages⟩
  rw [begun.since_next rfl]
  intro other member
  rcases List.mem_append.mp member with old | new
  · exact drawn other old
  · cases List.mem_singleton.mp new
    exact here

theorem Numbered.opened {r : Recording α} (kept : r.Numbered) : r.opened.Numbered := by
  show r.pages + 1 = (Call.newPage (r.pages + 1) :: r.calls).countP Call.opens
  rw [List.countP_cons_of_pos rfl, kept]

theorem Numbered.add {r : Recording α} (kept : r.Numbered) {call : Call α} (closed : call.opens = false) :
    (r.add call).Numbered := by
  simpa [Numbered, Recording.add, List.countP_cons, closed] using kept

/-- A request that adds a call keeps what the call does not break. -/
theorem keeps_of_add {invariant : Recording α → Prop} {act : Act (Recording α) β}
    {result : Except Failure β} (call : Call α) (adds : ∀ r, act.outcome r = (result, r.add call))
    (kept : ∀ r, invariant r → invariant (r.add call)) :
    act.Keeps invariant (fun _ => True) fun _ => True := by
  intro r holds
  cases result with
  | ok x => exact Or.inl ⟨x, _, adds r, trivial, kept r holds⟩
  | error failure => exact Or.inr ⟨failure, _, adds r, trivial, kept r holds⟩

/-- A recording sink keeps an invariant that no question and no call on the pages in question
breaks, and that no report touches. -/
theorem recording_keeps (answers : Answers α) (fonts : FontRegistry) {invariant : Recording α → Prop}
    {pages : Nat → Prop}
    (add : ∀ r call, call.opens = false → (∀ n ∈ call.drawnOn?, pages n) → invariant r →
      invariant (r.add call))
    (report : ∀ r reports, invariant r → invariant { r with reports := reports }) :
    (Sink.recording answers).Keeps invariant (fun _ => True) pages fonts := by
  constructor
  case drawText =>
    intro page face here _ text origin size
    refine keeps_of_add (.text page text origin face size) (fun _ => rfl) fun r => add r _ rfl ?_
    rintro n ⟨⟩
    exact here
  case drawPolyline =>
    intro page points here _ closed options
    refine keeps_of_add (.polyline page points closed options) (fun _ => rfl) fun r => add r _ rfl ?_
    rintro n ⟨⟩
    exact here
  case drawImage =>
    intro page here path origin natural scaleX scaleY
    refine keeps_of_add (.image page path origin natural scaleX scaleY) (fun _ => rfl) fun r =>
      add r _ rfl ?_
    rintro n ⟨⟩
    exact here
  case stringWidth =>
    intro face _ text size
    exact keeps_of_add _ (Sink.recording_stringWidth answers text face size) fun r => add r _ rfl nofun
  case imageSize =>
    exact fun path => keeps_of_add _ (Sink.recording_imageSize answers path) fun r => add r _ rfl nofun
  case report => exact fun told r holds => Or.inl ⟨(), _, rfl, trivial, report r _ holds⟩
  case unplaced => exact fun _ _ => trivial

end Recording

variable [Scalar α] (answers : Answers α) (job : Job α)

/-- A recording without calls, whose last page has the number. -/
def Recording.blank (page : Nat) : Recording α := { pages := page }

/-- What a command calls for on a page, by itself. -/
def Command.calls (page : Nat) (command : Command α) : List (Call α) :=
  (Recording.blank page).since ((command.draw (.recording answers) job page).outcome (.blank page)).2

theorem Command.draw_calls {page : Nat} (command : Command α) {r : Recording α} (here : r.pages = page) :
    r.GoesOn ((command.draw (.recording answers) job page).outcome r).2 ∧
      r.since ((command.draw (.recording answers) job page).outcome r).2 = command.calls answers job page := by
  have alike := drawAll_moved answers job id (fun _ => rfl) page [command] (.blank page) r
  rw [id_eq, drawAll_singleton] at alike
  obtain ⟨_, begun, made, _⟩ := (alike _ _ (Recording.moved_self here)).states
  have unchanged : Call.map id id = (id : Call α → Call α) := funext Call.map_id
  rw [unchanged, List.map_id] at made
  exact ⟨begun, made⟩

/-- A command that opens no page draws on the page that it is given, and on no other. -/
theorem Command.draw_stays (page : Nat) {command : Command α} (stays : command.opensPage = false)
    (r : Recording α) :
    (command.directive.draw (.recording answers) job page).Keeps (Recording.OnPage page r)
      (fun _ => True) (· = page) := by
  have keeps : (Sink.recording answers).Keeps (Recording.OnPage page r) (fun _ => True) (· = page) job.fonts := by
    refine Recording.recording_keeps answers _ ?_ ?_
    · exact fun _ call _ here kept => kept.add here
    · rintro _ _ ⟨begun, drawn, pages⟩
      exact ⟨begun, drawn, pages⟩
  refine Directive.draw_keeps keeps rfl command.directive fun opening => ?_
  simp [opensPage, opening, Directive.keyword] at stays

theorem Command.draw_opens (page : Nat) {command : Command α} (opens : command.opensPage = true) :
    command.draw (.recording answers) job page = (Sink.recording answers).newPage.located command.line
      (some command.directive.keyword.name) := by
  obtain ⟨line, directive⟩ := command
  cases directive <;> first | rfl | simp [opensPage, Directive.keyword] at opens

/-- After a command the last page opened is the one to go on with. -/
theorem Command.draw_page {page last : Nat} {command : Command α} {r t : Recording α}
    (here : r.pages = page) (drawn : (command.draw (.recording answers) job page).outcome r = (.ok last, t)) :
    last = page + newPages [command] ∧ t.pages = last := by
  cases opens : command.opensPage with
  | true =>
    rw [Command.draw_opens answers job page opens] at drawn
    obtain ⟨rfl, rfl⟩ : r.pages + 1 = last ∧ r.opened = t := by
      simpa using Act.outcome_located_eq_ok drawn
    simp [newPages, opens, here, Recording.opened]
  | false =>
    have start : Recording.OnPage page r r := ⟨.refl r, by simp [Recording.since_self], rfl⟩
    obtain ⟨rfl, kept⟩ := (Command.draw_stays answers job page opens r).of_ok start
      (Act.outcome_located_eq_ok drawn)
    have count : newPages [command] = 0 := by simp [newPages, opens]
    have pages := kept.2.2
    omega

theorem drawAll_page {page last : Nat} {commands : List (Command α)} {r t : Recording α}
    (here : r.pages = page)
    (drawn : (drawAll (.recording answers) job page commands).outcome r = (.ok last, t)) :
    last = page + newPages commands ∧ t.pages = last := by
  induction commands generalizing page r with
  | nil =>
    cases drawn
    exact ⟨rfl, here⟩
  | cons command rest ih =>
    obtain ⟨next, u, first, others⟩ := Act.outcome_bind_eq_ok drawn
    obtain ⟨step, there⟩ := Command.draw_page answers job here first
    obtain ⟨total, pages⟩ := ih there others
    have count : newPages (command :: rest) = newPages [command] + newPages rest := by
      rw [newPages, newPages, newPages, ← List.countP_append]
      rfl
    exact ⟨by omega, pages⟩

/-- Every draw call of a command is on its page. -/
theorem Command.calls_onPage (page : Nat) (command : Command α) :
    ∀ call ∈ command.calls answers job page, ∀ n ∈ call.drawnOn?, n = page := by
  let blank : Recording α := .blank page
  cases opens : command.opensPage with
  | true =>
    have made : command.calls answers job page = [.newPage (page + 1)] := by
      rw [calls, Command.draw_opens answers job page opens, Act.outcome_located_state]
      exact Recording.since_eq rfl
    rw [made]
    intro call member
    cases List.mem_singleton.mp member
    exact nofun
  | false =>
    have start : Recording.OnPage page blank blank := ⟨.refl blank, by simp [Recording.since_self], rfl⟩
    have kept := (Command.draw_stays answers job page opens blank).after start
    rw [calls, Command.draw, Act.outcome_located_state]
    exact kept.2.1

/-- The calls of the first command stand before all others. -/
theorem drawAll_cons_since {page : Nat} (command : Command α) (after : List (Command α)) {r : Recording α}
    (here : r.pages = page) :
    ∃ rest, r.since ((drawAll (.recording answers) job page (command :: after)).outcome r).2 =
      command.calls answers job page ++ rest := by
  obtain ⟨begun, made⟩ := Command.draw_calls answers job command here
  cases run : (command.draw (.recording answers) job page).outcome r with
  | mk result t =>
    rw [run] at begun made
    cases result with
    | ok next =>
      have goesOn := drawAll_goesOn answers job next after t
      refine ⟨t.since ((drawAll (.recording answers) job next after).outcome t).2, ?_⟩
      rw [drawAll, Act.outcome_bind_ok run, begun.since_trans goesOn, made]
    | error failure =>
      refine ⟨[], ?_⟩
      rw [drawAll, Act.outcome_bind_error run, made, List.append_nil]

/-- The recordings that renderings one after the other come to, each with its own record and its own
commands, whether they fail or not. Nothing else is kept from one rendering to the next. -/
inductive Recording.Reached : Recording α → Prop
  | start : Reached {}
  | render {r} (job : Job α) (commands : List (Command α)) : Reached r →
      Reached ((render (.recording answers) job commands).outcome r).2

variable {answers} in
theorem Recording.Reached.numbered {r : Recording α} (reached : r.Reached answers) : r.Numbered := by
  induction reached with
  | start => rfl
  | @render r job commands _ ih =>
    have keeps : (Sink.recording answers).Keeps Recording.Numbered (fun _ => True) (fun _ => True) job.fonts :=
      Recording.recording_keeps answers _ (fun _ _ closed _ kept => kept.add closed) fun _ _ kept => kept
    have opens : (Sink.recording answers).newPage.Keeps Recording.Numbered (fun _ => True) fun _ => True :=
      fun r kept => Or.inl ⟨_, _, rfl, trivial, kept.opened⟩
    have kept : (drawAll (.recording answers) job (r.pages + 1) commands).Keeps Recording.Numbered
        (fun _ => True) fun _ => True :=
      drawAll_keeps keeps (fun _ _ _ _ => trivial) opens trivial commands
    obtain ⟨_, calls, pages⟩ := render_recording answers job commands r
    rw [Recording.Numbered, calls, pages]
    exact kept.after ih.opened

/-- Commands after others make the calls that they make alone, on later pages. -/
theorem drawAll_append_since {page last : Nat} {first : List (Command α)} {r t : Recording α}
    (here : r.pages = page)
    (drawn : (drawAll (.recording answers) job page first).outcome r = (.ok last, t))
    (later : List (Command α)) :
    let alone := (drawAll (.recording answers) job page later).outcome r
    let whole := (drawAll (.recording answers) job page (first ++ later)).outcome r
    whole.1.map (fun _ => ()) = alone.1.map (fun _ => ()) ∧
      r.since whole.2 = r.since t ++ (r.since alone.2).map (Call.map (· + newPages first) id) := by
  intro alone whole
  obtain ⟨rfl, pages⟩ := drawAll_page answers job here drawn
  have parted : whole = (drawAll (.recording answers) job (page + newPages first) later).outcome t :=
    drawAll_append_ok drawn later
  have counted : t.pages = r.pages + newPages first := by omega
  -- later commands from here and from the beginning: the same up to the pages opened in between
  have agree := drawAll_moved answers job (· + newPages first) (fun n => by omega) page later r t _ _
    (Recording.moved_self counted)
  have begun := drawAll_goesOn answers job page first r
  rw [drawn] at begun
  obtain ⟨_, ended, made, _⟩ := agree.states
  rw [parted, begun.since_trans ended, made]
  exact ⟨agree.map_eq fun _ _ same => same, rfl⟩

/-- The command after others makes its own calls next. -/
theorem drawAll_append_cons_since {page last : Nat} {first : List (Command α)} {r t : Recording α}
    (here : r.pages = page)
    (drawn : (drawAll (.recording answers) job page first).outcome r = (.ok last, t))
    (command : Command α) (after : List (Command α)) :
    ∃ rest, r.since ((drawAll (.recording answers) job page (first ++ command :: after)).outcome r).2 =
      r.since t ++ command.calls answers job (page + newPages first) ++ rest := by
  obtain ⟨rfl, pages⟩ := drawAll_page answers job here drawn
  have begun := drawAll_goesOn answers job page first r
  have ended := drawAll_goesOn answers job (page + newPages first) (command :: after) t
  rw [drawn] at begun
  obtain ⟨rest, made⟩ := drawAll_cons_since answers job command after pages
  exact ⟨rest, by rw [drawAll_append_ok drawn, begun.since_trans ended, made, List.append_assoc]⟩

/-- The first call of a rendering opens its first page. -/
theorem render_since (commands : List (Command α)) (r : Recording α) :
    r.since ((render (.recording answers) job commands).outcome r).2 = .newPage (r.pages + 1) ::
      r.opened.since ((drawAll (.recording answers) job (r.pages + 1) commands).outcome r.opened).2 := by
  have opening : r.GoesOn r.opened := (Recording.GoesOn.refl r).next rfl
  have first : r.since r.opened = [.newPage (r.pages + 1)] := Recording.since_eq rfl
  have goesOn := drawAll_goesOn answers job (r.pages + 1) commands r.opened
  obtain ⟨_, calls, _⟩ := render_recording answers job commands r
  rw [r.since_congr calls, opening.since_trans goesOn, first]
  rfl

/-- Commands after others are drawn as if they stood alone, but for the numbers of their pages: the
page that the last of the others leaves takes the place of their first one. Hence each command calls
for the same, on its page, whatever stands before it and whatever was rendered before. -/
theorem render_append {r : Recording α} (reached : r.Reached answers) {first : List (Command α)}
    (drawn : ((render (.recording answers) job first).outcome r).1 = .ok ()) (later : List (Command α)) :
    let run commands := (render (.recording answers) job commands).outcome r
    let calls commands := r.since (run commands).2
    let page := r.pages + 1 + newPages first
    r.pages = r.calls.countP Call.opens ∧
      (∀ commands, r.GoesOn (run commands).2) ∧
      (run (first ++ later)).1 = (run later).1 ∧
      (∃ rest, calls later = .newPage (r.pages + 1) :: rest ∧
        calls (first ++ later) = calls first ++ rest.map (Call.map (· + newPages first) id)) ∧
      ∀ command after, later = command :: after →
        (∃ rest, calls (first ++ later) = calls first ++ command.calls answers job page ++ rest) ∧
        ∀ call ∈ command.calls answers job page, ∀ n ∈ call.drawnOn?, n = page := by
  intro run calls page
  cases firstRun : (drawAll (.recording answers) job (r.pages + 1) first).outcome r.opened with
  | mk result t =>
    cases result with
    | error failure =>
      rw [(render_recording answers job first r).1, firstRun] at drawn
      cases drawn
    | ok last =>
      have here : r.opened.pages = r.pages + 1 := rfl
      obtain ⟨same, made⟩ := drawAll_append_since answers job here firstRun later
      refine ⟨reached.numbered, fun commands => render_goesOn answers job commands r, ?_,
        ⟨_, render_since answers job later r, ?_⟩, ?_⟩
      · rw [show (run (first ++ later)).1 = _ from (render_recording answers job (first ++ later) r).1,
          show (run later).1 = _ from (render_recording answers job later r).1]
        exact same
      · rw [show calls (first ++ later) = _ from render_since answers job (first ++ later) r,
          show calls first = _ from render_since answers job first r, made, firstRun]
        rfl
      · rintro command after rfl
        obtain ⟨rest, own⟩ := drawAll_append_cons_since answers job here firstRun command after
        refine ⟨⟨rest, ?_⟩, Command.calls_onPage answers job page command⟩
        rw [show calls (first ++ command :: after) = _ from render_since answers job _ r,
          show calls first = _ from render_since answers job first r, own, firstRun]
        rfl

/-- After a rendering that has failed, a line and a new page before a box move it one page on. -/
theorem render_append_after_failure :
    let sink : Sink Rat (Recording Rat) := .recording (.usual ⟨40.0, 30.0⟩)
    let r := ((render sink .bare [⟨some 1, .polyline 0 [] {} none⟩]).outcome {}).2
    let run commands := (render sink .bare commands).outcome r
    let calls commands := r.since (run commands).2
    let first : List (Command Rat) := [⟨some 1, .line ⟨0, 0⟩ ⟨20, 0⟩ {}⟩, ⟨some 2, .newPage⟩]
    let later : List (Command Rat) := [⟨some 3, .box ⟨0, 0⟩ ⟨20, 10⟩ {}⟩]
    r.Reached (.usual ⟨40.0, 30.0⟩) ∧ (run first).1 = .ok () ∧
      calls (first ++ later) = calls first ++ (calls later).tail.map (Call.map (· + 1) id) := by
  intro sink r run calls first later
  have reached : r.Reached (.usual ⟨40.0, 30.0⟩) := .render .bare _ .start
  have drawn : (run first).1 = .ok () := rfl
  obtain ⟨_, _, _, ⟨rest, alone, made⟩, _⟩ := render_append _ .bare reached drawn later
  refine ⟨reached, drawn, ?_⟩
  rw [show calls later = _ from alone]
  exact made

end Rirekisho
