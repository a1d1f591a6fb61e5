import Rirekisho.Proofs.Pairing

namespace Rirekisho

/-- The options for type that a directive has. -/
def Directive.font? {α : Type} : Directive α → Option (FontOptions α)
  | .string _ _ font | .textBox _ _ _ font | .history _ _ font | .educationExperience _ _ _ font => some font
  | .line .. | .box .. | .photo .. | .newPage | .multiLines .. | .polyline .. | .yearMonthBox .. | .miscBox .. => none

/-- The records give a directive the same texts and the same lists. -/
def Directive.ReadsAlike {α : Type} (record other : Record) : Directive α → Prop
  | .string _ value _ | .textBox _ _ value _ => record.resolveText value = other.resolveText value
  | .history _ value _ => record.resolveList value = other.resolveList value
  | .educationExperience .. =>
    record.entries .education = other.entries .education ∧
      record.entries .experience = other.entries .experience
  | _ => True

theorem Directive.ReadsAlike.refl {α : Type} (record : Record) (directive : Directive α) :
    directive.ReadsAlike record record := by
  cases directive <;> simp [ReadsAlike]

theorem FontRegistry.mem_of_resolve {fonts : FontRegistry} {name face : String}
    (registered : fonts.resolve name = .ok face) : face ∈ fonts.names := by
  unfold resolve at registered
  split at registered
  next member => cases registered; exact member
  next => cases registered

/-- The fault is one that the renderer itself finds. -/
def Fault.isDrawing : Fault → Bool
  | .unknownVariable _ | .listAsText _ | .textAsList _ | .noList _ => true
  | .unregisteredFont .. | .imageSize .. | .emptyPolyline => true
  | _ => false

/-- The report is one of the renderer itself. -/
def Report.isDrawing : Report → Bool
  | .yearMonthBoxSkipped _ | .miscBoxSkipped _ | .rendered _ => true
  | _ => false

theorem FontRegistry.isDrawing_of_resolve {fonts : FontRegistry} {name : String} {fault : Fault}
    (unregistered : fonts.resolve name = .error fault) : fault.isDrawing := by
  unfold resolve at unregistered
  split at unregistered <;> cases unregistered
  rfl

theorem Record.isDrawing_of_resolveText {record : Record} {value : String} {fault : Fault}
    (unresolved : record.resolveText value = .error fault) : fault.isDrawing := by
  unfold resolveText at unresolved
  repeat' split at unresolved
  all_goals cases unresolved
  all_goals rfl

theorem Record.isDrawing_of_resolveList {record : Record} {value : String} {fault : Fault}
    (unresolved : record.resolveList value = .error fault) : fault.isDrawing := by
  unfold resolveList at unresolved
  repeat' split at unresolved
  all_goals cases unresolved
  all_goals rfl

variable {α σ τ : Type} [Scalar α]

theorem isDrawing_of_photoScale {target natural : Size α} {fault : Fault}
    (unscaled : photoScale target natural = .error fault) : fault.isDrawing := by
  unfold photoScale at unscaled
  split at unscaled <;> cases unscaled
  rfl

namespace Pairing

/-- Sinks of which the first one follows the second one: asked for things that belong together, they do
such, unless the first one is stopped. They need not do so for faces that are not registered, for lines
without points, for other images than the photo, for a photo whose size has not been asked for, or for
reports that are not the renderer's. -/
structure SinkFollows (π : Pairing α σ τ) (stops : Failure → Prop) (sized : Size α → Prop) (job : Job α)
    (A : Sink α σ) (B : Sink α τ) : Prop where
  drawText {p q : Nat} {o o' : Point α} {face : String} : π.pages p q → π.places o o' →
    face ∈ job.fonts.names → ∀ text size,
      π.Follows stops Eq (A.drawText p text o face size) (B.drawText q text o' face size)
  drawPolyline {p q : Nat} {points points' : List (Point α)} : π.pages p q → points ≠ [] →
    List.Forall₂ π.places points points' → ∀ closed options,
      π.Follows stops Eq (A.drawPolyline p points closed options)
        (B.drawPolyline q points' closed options)
  drawImage {p q : Nat} {o o' : Point α} {natural : Size α} : π.pages p q → π.places o o' →
    sized natural → ∀ scaleX scaleY,
      π.Follows stops Eq (A.drawImage p job.photo o natural scaleX scaleY)
        (B.drawImage q job.photo o' natural scaleX scaleY)
  stringWidth {face : String} : face ∈ job.fonts.names → ∀ text size,
    π.Follows stops Eq (A.stringWidth text face size) (B.stringWidth text face size)
  imageSize : π.Follows stops (fun x y => x = y ∧ sized x) (A.imageSize job.photo) (B.imageSize job.photo)
  report {report : Report} : report.isDrawing → π.Follows stops Eq (A.report report) (B.report report)
  /-- Faults of the renderer itself, which have no line and no keyword yet. -/
  unplaced {fault : Fault} : fault.isDrawing → ∀ field,
    π.failures (.fault ⟨fault, none, none, field⟩) (.fault ⟨fault, none, none, field⟩)

/-- Sinks that keep a pairing: asked for things that belong together, they do such. They need not
do so for faces that are not registered, or for lines without points. -/
structure Sinks (π : Pairing α σ τ) (fonts : FontRegistry) (A : Sink α σ) (B : Sink α τ) : Prop where
  drawText {p q : Nat} {o o' : Point α} {face : String} : π.pages p q → π.places o o' →
    face ∈ fonts.names → ∀ text size,
      π.Alike Eq (A.drawText p text o face size) (B.drawText q text o' face size)
  drawPolyline {p q : Nat} {points points' : List (Point α)} : π.pages p q → points ≠ [] →
    List.Forall₂ π.places points points' → ∀ closed options,
      π.Alike Eq (A.drawPolyline p points closed options) (B.drawPolyline q points' closed options)
  drawImage {p q : Nat} {o o' : Point α} : π.pages p q → π.places o o' →
    ∀ path natural scaleX scaleY,
      π.Alike Eq (A.drawImage p path o natural scaleX scaleY)
        (B.drawImage q path o' natural scaleX scaleY)
  stringWidth {face : String} : face ∈ fonts.names → ∀ text size,
    π.Alike Eq (A.stringWidth text face size) (B.stringWidth text face size)
  imageSize path : π.Alike Eq (A.imageSize path) (B.imageSize path)
  report report : π.Alike Eq (A.report report) (B.report report)
  /-- Faults of the renderer itself, which have no line and no keyword yet. -/
  unplaced fault field : π.failures (.fault ⟨fault, none, none, field⟩) (.fault ⟨fault, none, none, field⟩)

omit [Scalar α] in
/-- Sinks that keep a pairing follow each other, and nothing stops them. -/
theorem Sinks.follows {π : Pairing α σ τ} {job : Job α} {A : Sink α σ} {B : Sink α τ}
    (sinks : π.Sinks job.fonts A B) : π.SinkFollows (fun _ => False) (fun _ => True) job A B where
  drawText here place member text size := (sinks.drawText here place member text size).follows
  drawPolyline here some along closed options := (sinks.drawPolyline here some along closed options).follows
  drawImage here place _ scaleX scaleY := (sinks.drawImage here place _ _ scaleX scaleY).follows
  stringWidth member text size := (sinks.stringWidth member text size).follows
  imageSize := ((sinks.imageSize job.photo).mono fun _ _ same => ⟨same, trivial⟩).follows
  report _ := (sinks.report _).follows
  unplaced _ field := sinks.unplaced _ field

/-- Jobs that differ at most in their records and margins. The margins bring every coordinate to
ones that belong together, and ways from there keep them so. -/
structure Jobs (π : Pairing α σ τ) (j k : Job α) : Prop where
  fonts : j.fonts = k.fonts
  photo : j.photo = k.photo
  margin (x : α) : π.coordinates (x + j.margin) (x + k.margin)
  add {x y : α} (d : α) : π.coordinates x y → π.coordinates (x + d) (y + d)
  sub {x y : α} (d : α) : π.coordinates x y → π.coordinates (x - d) (y - d)

variable {π : Pairing α σ τ} {A : Sink α σ} {B : Sink α τ} {j k : Job α} {p q : Nat}

/-- A job and itself, where only equal coordinates belong together. -/
theorem Jobs.same (equal : π.coordinates = Eq) (job : Job α) : π.Jobs job job where
  fonts := rfl
  photo := rfl
  margin _ := by rw [equal]
  add d near := by rw [equal] at near ⊢; rw [near]
  sub d near := by rw [equal] at near ⊢; rw [near]

theorem Jobs.toPage (jobs : π.Jobs j k) (point : Point α) : π.places (j.toPage point) (k.toPage point) :=
  ⟨jobs.margin point.x, jobs.margin point.y⟩

theorem Jobs.step (jobs : π.Jobs j k) {u v : Point α} (way : Point α) (near : π.places u v) :
    π.places (u + way) (v + way) :=
  ⟨jobs.add way.x near.1, jobs.add way.y near.2⟩

theorem Jobs.pathFrom (jobs : π.Jobs j k) {u v : Point α} (ways : List (Point α))
    (near : π.places u v) :
    List.Forall₂ π.places (Rirekisho.pathFrom u ways) (Rirekisho.pathFrom v ways) := by
  induction ways generalizing u v with
  | nil => exact .cons near .nil
  | cons way ways ih => exact .cons near (ih (jobs.step way near))

theorem Jobs.frameCorners (jobs : π.Jobs j k) {u v : Point α} (size : Size α)
    (near : π.places u v) :
    List.Forall₂ π.places (Rirekisho.frameCorners u size) (Rirekisho.frameCorners v size) := by
  have left := near.1
  have top := near.2
  have right := jobs.add size.width near.1
  have bottom := jobs.sub size.height near.2
  exact .cons ⟨left, bottom⟩ (.cons ⟨right, bottom⟩ (.cons ⟨right, top⟩ (.cons near .nil)))

theorem Jobs.boxCorners (jobs : π.Jobs j k) (position : Point α) (size : Size α) :
    List.Forall₂ π.places ((Rirekisho.boxCorners position size).map j.toPage)
      ((Rirekisho.boxCorners position size).map k.toPage) := by
  rw [List.forall₂_map_left_iff, List.forall₂_map_right_iff]
  exact List.forall₂_same.mpr fun corner _ => jobs.toPage corner

theorem Jobs.baseline (jobs : π.Jobs j k) {x y : α} (lineHeight : α) (number : Nat)
    (near : π.coordinates x y) :
    π.coordinates (Rirekisho.baseline x lineHeight number) (Rirekisho.baseline y lineHeight number) :=
  jobs.sub _ near

section
variable {stops : Failure → Prop} {sized : Size α → Prop}

omit [Scalar α] in
/-- Checks of the job that have no effect: both go on with the same value, or both stop with the
same fault. -/
theorem SinkFollows.ofFault {β γ δ : Type} {results : γ → δ → Prop} (sinks : π.SinkFollows stops sized j A B)
    (check : Except Fault β) (own : ∀ {fault}, check = .error fault → fault.isDrawing)
    {next : β → Act σ γ} {after : β → Act τ δ}
    (rest : ∀ x, check = .ok x → π.Follows stops results (next x) (after x)) :
    π.Follows stops results (Act.ofFault check >>= next) (Act.ofFault check >>= after) := by
  cases check with
  | error fault =>
    have stop : π.Follows stops (fun _ _ : β => False) (throw fault.toFailure) (throw fault.toFailure) :=
      .throw (sinks.unplaced (own rfl) none)
    exact stop.bind fun _ _ never => never.elim
  | ok x => exact rest x rfl

theorem placeText_follows (sinks : π.SinkFollows stops sized j A B) (jobs : π.Jobs j k)
    (pages : π.pages p q) (position : Point α) (value : String) (font : FontOptions α) :
    π.Follows stops Eq (placeText A j p position value font) (placeText B k q position value font) := by
  unfold placeText
  rw [← jobs.fonts]
  refine sinks.ofFault _ FontRegistry.isDrawing_of_resolve fun face registered => ?_
  have member := FontRegistry.mem_of_resolve registered
  have origin := jobs.toPage position
  refine Follows.forM _ fun line _ => ?_
  have height := jobs.baseline font.lineHeight line.2 origin.2
  exact sinks.drawText pages (places_mk origin.1 height) member _ _

theorem drawTextBox_follows (sinks : π.SinkFollows stops sized j A B) (jobs : π.Jobs j k)
    (pages : π.pages p q) (position : Point α) (size : Size α) (value : String) (font : FontOptions α)
    (reads : j.record.resolveText value = k.record.resolveText value) :
    π.Follows stops Eq (drawTextBox A j p position size value font)
      (drawTextBox B k q position size value font) := by
  unfold drawTextBox
  rw [← jobs.fonts, ← reads]
  refine sinks.ofFault _ Record.isDrawing_of_resolveText fun text _ =>
    sinks.ofFault _ FontRegistry.isDrawing_of_resolve fun face registered => ?_
  have member := FontRegistry.mem_of_resolve registered
  have corner := jobs.toPage position
  have frame := sinks.drawPolyline pages (List.cons_ne_nil _ _) (jobs.frameCorners size corner) true {}
  refine frame.bind fun _ _ _ => Follows.forM _ fun line _ => ?_
  refine (sinks.stringWidth member line.1 font.size).bind fun width _ same => ?_
  subst same
  have middle := jobs.sub (width / 2.0) (jobs.add (size.width / 2.0) corner.1)
  have height := jobs.baseline font.lineHeight line.2
    (jobs.add (font.lineHeight * Scalar.ofNat (textLines text).length / 2.0)
      (jobs.sub (size.height / 2.0) corner.2))
  exact sinks.drawText pages (places_mk middle height) member _ _

theorem drawLine_follows (sinks : π.SinkFollows stops sized j A B) (jobs : π.Jobs j k)
    (pages : π.pages p q) (start delta : Point α) (options : LineOptions α) :
    π.Follows stops Eq (drawLine A j p start delta options) (drawLine B k q start delta options) := by
  have origin := jobs.toPage start
  exact sinks.drawPolyline pages (List.cons_ne_nil _ _)
    (.cons origin (.cons (jobs.step delta origin) .nil)) false options

theorem drawMultiLines_follows (sinks : π.SinkFollows stops sized j A B) (jobs : π.Jobs j k)
    (pages : π.pages p q) (start direction offset : Point α) (count : Nat) :
    π.Follows stops Eq (drawMultiLines A j p start direction offset count)
      (drawMultiLines B k q start direction offset count) := by
  induction count generalizing start with
  | zero => exact .pure rfl
  | succ count ih =>
    exact (drawLine_follows sinks jobs pages start direction {}).bind fun _ _ _ => ih (start + offset)

theorem drawPhoto_follows (sinks : π.SinkFollows stops sized j A B) (jobs : π.Jobs j k)
    (pages : π.pages p q) (position : Point α) (size : Size α) :
    π.Follows stops Eq (drawPhoto A j p position size) (drawPhoto B k q position size) := by
  unfold drawPhoto
  rw [← jobs.photo]
  refine sinks.imageSize.bind fun natural _ ⟨same, known⟩ => ?_
  subst same
  exact sinks.ofFault _ isDrawing_of_photoScale fun scales _ =>
    sinks.drawImage pages (jobs.toPage position) known _ _

theorem drawEntries_follows (sinks : π.SinkFollows stops sized j A B) (jobs : π.Jobs j k)
    (pages : π.pages p q) (columns : TableColumns α) (font : FontOptions α) (y : α)
    (entries : List Entry) :
    π.Follows stops Eq (drawEntries A j p columns font y entries)
      (drawEntries B k q columns font y entries) := by
  induction entries generalizing y with
  | nil => exact .pure rfl
  | cons entry rest ih =>
    have cell := placeText_follows sinks jobs pages
    exact (cell _ _ font).bind fun _ _ _ => (cell _ _ font).bind fun _ _ _ =>
      (cell _ _ font).bind fun _ _ _ => ih (y - columns.padding)

theorem drawCaptioned_follows (sinks : π.SinkFollows stops sized j A B) (jobs : π.Jobs j k)
    (pages : π.pages p q) (columns : TableColumns α) (font : FontOptions α) (captionX y : α)
    (caption : String) (entries : List Entry) :
    π.Follows stops Eq (drawCaptioned A j p columns font captionX y caption entries)
      (drawCaptioned B k q columns font captionX y caption entries) :=
  (placeText_follows sinks jobs pages _ _ font).bind fun _ _ _ =>
    drawEntries_follows sinks jobs pages columns font _ entries

/-- A directive that opens no page needs nothing to be known of how pages are opened. -/
theorem draw_follows (sinks : π.SinkFollows stops sized j A B) (jobs : π.Jobs j k) (pages : π.pages p q)
    (directive : Directive α) (reads : directive.ReadsAlike j.record k.record)
    (opens : directive = .newPage → π.Follows stops π.pages A.newPage B.newPage) :
    π.Follows stops π.pages (directive.draw A j p) (directive.draw B k q) := by
  have turn {a : Act σ Unit} {b : Act τ Unit} (drawn : π.Follows stops Eq a b) :
      π.Follows stops π.pages (do a; return p) (do b; return q) := drawn.bind fun _ _ _ => .pure pages
  cases directive with
  | string position value font =>
    simp only [Directive.draw]
    rw [← show j.record.resolveText value = k.record.resolveText value from reads]
    exact sinks.ofFault _ Record.isDrawing_of_resolveText fun text _ =>
      turn (placeText_follows sinks jobs pages _ _ _)
  | line start delta options => exact turn (drawLine_follows sinks jobs pages _ _ _)
  | box position size options =>
    exact turn (sinks.drawPolyline pages (List.cons_ne_nil _ _) (jobs.boxCorners position size) _ _)
  | photo position size => exact turn (drawPhoto_follows sinks jobs pages _ _)
  | newPage => exact opens rfl
  | textBox position size value font =>
    exact turn (drawTextBox_follows sinks jobs pages _ _ _ _ reads)
  | multiLines start direction count offset =>
    exact turn (drawMultiLines_follows sinks jobs pages _ _ _ _)
  | polyline count positions options close =>
    cases positions with
    | nil => exact .throw (sinks.unplaced rfl _)
    | cons first ways =>
      have near := jobs.pathFrom ways (jobs.toPage first)
      have some : pathFrom (j.toPage first) ways ≠ [] := by cases ways <;> exact List.cons_ne_nil _ _
      exact turn (sinks.drawPolyline pages some near _ _)
  | yearMonthBox title height count value => exact turn (sinks.report rfl)
  | miscBox title y height value => exact turn (sinks.report rfl)
  | history columns value font =>
    simp only [Directive.draw]
    rw [← show j.record.resolveList value = k.record.resolveList value from reads]
    exact sinks.ofFault _ Record.isDrawing_of_resolveList fun entries _ =>
      (drawEntries_follows sinks jobs pages _ _ _ entries).bind fun _ _ _ => .pure pages
  | educationExperience columns captionX endX font =>
    obtain ⟨education, experience⟩ := reads
    simp only [Directive.draw]
    rw [← education, ← experience]
    refine (drawCaptioned_follows sinks jobs pages _ _ _ _ _ _).bind fun y _ same => ?_
    subst same
    refine (drawCaptioned_follows sinks jobs pages _ _ _ _ _ _).bind fun y _ same => ?_
    subst same
    exact turn (placeText_follows sinks jobs pages _ _ _)

/-- Commands side by side, where no failure is told apart by its place in the script. -/
theorem drawAll_follows (sinks : π.SinkFollows stops sized j A B) (jobs : π.Jobs j k)
    (told : ∀ line keyword f g, π.failures f g → π.failures (f.locate line keyword) (g.locate line keyword))
    (stopped : ∀ line keyword f, stops f → stops (f.locate line keyword))
    (opens : π.Follows stops π.pages A.newPage B.newPage) (pages : π.pages p q)
    (commands : List (Command α))
    (reads : ∀ command ∈ commands, command.directive.ReadsAlike j.record k.record) :
    π.Follows stops π.pages (drawAll A j p commands) (drawAll B k q commands) := by
  induction commands generalizing p q with
  | nil => exact .pure pages
  | cons command rest ih =>
    have first := draw_follows sinks jobs pages command.directive (reads _ (List.mem_cons_self ..))
      fun _ => opens
    exact (first.located _ _ (told _ _) (stopped _ _)).bind fun m n pages =>
      ih pages fun other member => reads other (List.mem_cons_of_mem _ member)

theorem render_follows (sinks : π.SinkFollows stops sized j A B) (jobs : π.Jobs j k)
    (told : ∀ line keyword f g, π.failures f g → π.failures (f.locate line keyword) (g.locate line keyword))
    (stopped : ∀ line keyword f, stops f → stops (f.locate line keyword))
    (opens : π.Follows stops π.pages A.newPage B.newPage) (commands : List (Command α))
    (reads : ∀ command ∈ commands, command.directive.ReadsAlike j.record k.record) :
    π.Follows stops Eq (render A j commands) (render B k commands) :=
  opens.bind fun _ _ pages => (drawAll_follows sinks jobs told stopped opens pages commands reads).bind
    fun _ _ _ => sinks.report rfl

end

theorem draw_alike (sinks : π.Sinks j.fonts A B) (jobs : π.Jobs j k) (pages : π.pages p q)
    (directive : Directive α) (reads : directive.ReadsAlike j.record k.record)
    (opens : directive = .newPage → π.Alike π.pages A.newPage B.newPage) :
    π.Alike π.pages (directive.draw A j p) (directive.draw B k q) :=
  (draw_follows sinks.follows jobs pages directive reads fun opening => (opens opening).follows).alike

theorem drawAll_alike (sinks : π.Sinks j.fonts A B) (jobs : π.Jobs j k)
    (told : ∀ line keyword f g, π.failures f g → π.failures (f.locate line keyword) (g.locate line keyword))
    (opens : π.Alike π.pages A.newPage B.newPage) (pages : π.pages p q) (commands : List (Command α))
    (reads : ∀ command ∈ commands, command.directive.ReadsAlike j.record k.record) :
    π.Alike π.pages (drawAll A j p commands) (drawAll B k q commands) :=
  (drawAll_follows sinks.follows jobs told (fun _ _ _ => id) opens.follows pages commands reads).alike

theorem render_alike (sinks : π.Sinks j.fonts A B) (jobs : π.Jobs j k)
    (told : ∀ line keyword f g, π.failures f g → π.failures (f.locate line keyword) (g.locate line keyword))
    (opens : π.Alike π.pages A.newPage B.newPage) (commands : List (Command α))
    (reads : ∀ command ∈ commands, command.directive.ReadsAlike j.record k.record) :
    π.Alike Eq (render A j commands) (render B k commands) :=
  (render_follows sinks.follows jobs told (fun _ _ _ => id) opens.follows commands reads).alike

end Pairing

end Rirekisho
