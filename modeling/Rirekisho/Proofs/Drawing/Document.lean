import Rirekisho.Drawing.Document
import Rirekisho.Proofs.Outcome

namespace Rirekisho

variable {α σ β γ : Type}

/-- The failure is one of the canvas, which cannot write a number. -/
def Failure.OfCanvas : Failure → Prop
  | .overflow | .undefinedNumber => True
  | _ => False

/-- The failure is that of a page which cannot be drawn on any more. -/
def Failure.OfClosedPage (failure : Failure) : Prop :=
  ∃ page line keyword field, failure = .fault ⟨.closedPage page, line, keyword, field⟩

theorem Failure.OfCanvas.locate_eq {failure : Failure} (stop : failure.OfCanvas) (line : Option Int)
    (keyword : Option String) : failure.locate line keyword = failure := by
  cases failure <;> first | rfl | cases stop

theorem Failure.OfCanvas.locate {failure : Failure} (stop : failure.OfCanvas) (line : Option Int)
    (keyword : Option String) : (failure.locate line keyword).OfCanvas := by
  rw [stop.locate_eq]
  exact stop

theorem Failure.OfClosedPage.of_locate {failure : Failure} {line : Option Int} {keyword : Option String}
    (stale : (failure.locate line keyword).OfClosedPage) : failure.OfClosedPage := by
  obtain ⟨page, l, k, field, same⟩ := stale
  cases failure with
  | fault e =>
    cases e
    cases same
    exact ⟨page, _, _, _, rfl⟩
  | _ => cases same

theorem Failure.OfCanvas.not_ofClosedPage {failure : Failure} (stop : failure.OfCanvas) :
    ¬ failure.OfClosedPage := by
  rintro ⟨_, _, _, _, rfl⟩
  exact stop

/-- Faces with the measures of Courier: each character is six tenths of the size wide. -/
def Typecase.courier [Scalar α] (known : List String) : Typecase α where
  known := known
  width text _ size := Scalar.ofNat (600 * text.length) * 0.001 * size

/-- From the one state the computation reaches the other one with a result, unless it is stopped. -/
def Act.Reaches (stops : Failure → Prop) (act : Act σ β) (s : σ) (x : β) (t : σ) : Prop :=
  act.outcome s = (.ok x, t) ∨ ∃ failure, (act.outcome s).1 = .error failure ∧ stops failure

theorem Act.Reaches.bind {stops : Failure → Prop} {act : Act σ β} {next : β → Act σ γ} {s t u : σ} {x : β}
    {y : γ} (first : act.Reaches stops s x t) (rest : (next x).Reaches stops t y u) :
    (act >>= next).Reaches stops s y u := by
  rcases first with run | ⟨failure, stopped, stop⟩
  · rw [Reaches, outcome_bind_ok run]
    exact rest
  · cases run : act.outcome s with
    | mk result v =>
      rw [run] at stopped
      cases stopped
      exact Or.inr ⟨failure, by rw [outcome_bind_error run], stop⟩

theorem Act.Reaches.get {stops : Failure → Prop} {next : σ → Act σ β} {s t : σ} {x : β}
    (rest : (next s).Reaches stops s x t) : (MonadState.get >>= next).Reaches stops s x t :=
  rest

namespace Document

/-- The document with further calls on the canvas. -/
def after (d : Document α) (made : List (CanvasCall α)) : Document α :=
  { d with calls := made.reverse ++ d.calls }

theorem after_after (d : Document α) (made more : List (CanvasCall α)) :
    (d.after made).after more = d.after (made ++ more) := by
  simp only [after, List.reverse_append, List.append_assoc]

variable {d : Document α} {page : Nat}

theorem outcome_draw_bind (call : CanvasCall α) (next : Unit → Act (Document α) β) (d : Document α) :
    (draw call >>= next).outcome d = (next ()).outcome (d.after [call]) := rfl

theorem draw_reaches {stops : Failure → Prop} (d : Document α) (call : CanvasCall α) :
    (draw call).Reaches stops d () (d.after [call]) :=
  Or.inl rfl

theorem guardPage_outcome (page : Nat) (d : Document α) : (guardPage page).outcome d =
    (if d.pages = page then .ok () else .error (Fault.closedPage page).toFailure, d) := by
  rw [guardPage, Act.outcome_get_bind]
  by_cases here : d.pages = page
  · rw [if_pos here, if_neg (not_not_intro here)]
    rfl
  · rw [if_neg here, if_pos here]
    rfl

theorem guardPage_reaches {stops : Failure → Prop} (here : d.pages = page) :
    (guardPage page).Reaches stops d () d := by
  rw [Act.Reaches, guardPage_outcome, if_pos here]
  exact Or.inl rfl

variable [Scalar α]

theorem ofCanvas_of_unwritten? {numbers : List α} {failure : Failure}
    (unwritten : unwritten? numbers = some failure) : failure.OfCanvas := by
  obtain ⟨x, _, refused⟩ := List.exists_of_findSome?_eq_some unwritten
  split at refused
  · cases refused
    trivial
  · split at refused <;> cases refused
    trivial

theorem write_outcome (numbers : List α) (d : Document α) :
    (write numbers).outcome d = ((unwritten? numbers).elim (.ok ()) .error, d) := by
  unfold write
  cases unwritten? numbers with
  | some failure => rfl
  | none => rfl

theorem write_reaches (d : Document α) (numbers : List α) :
    (write numbers).Reaches Failure.OfCanvas d () d := by
  rw [Act.Reaches, write_outcome]
  cases unwritten : unwritten? numbers with
  | some failure => exact Or.inr ⟨failure, rfl, ofCanvas_of_unwritten? unwritten⟩
  | none => exact Or.inl rfl

theorem drawText_reaches (here : d.pages = page) {face : String} (known : d.finds face) (text : String)
    (origin : Point α) (size : α) :
    (drawText page text origin face size).Reaches Failure.OfCanvas d ()
      (d.after [.font face size, .text (onCanvas origin.x) (onCanvas origin.y) text]) := by
  let set := d.after [.font face size]
  have shown : (draw _).Reaches Failure.OfCanvas set () _ :=
    draw_reaches set (.text (onCanvas origin.x) (onCanvas origin.y) text)
  rw [after_after] at shown
  have found : ¬ (!set.finds face) = true := by
    rw [Bool.not_eq_true', Bool.not_eq_false]
    exact known
  refine (guardPage_reaches here).bind ((draw_reaches d _).bind (.get ?_))
  dsimp only
  rw [if_neg found]
  have typed : (do
      draw (.text (onCanvas origin.x) (onCanvas origin.y) text)
      write [onCanvas origin.x, onCanvas origin.y]
      if set.loaded.contains face && text != "" then write (typeNumbers size)).Reaches Failure.OfCanvas set ()
        (d.after [.font face size, .text (onCanvas origin.x) (onCanvas origin.y) text]) := by
    refine shown.bind ((write_reaches _ _).bind ?_)
    split
    · exact write_reaches _ _
    · exact Or.inl rfl
  split
  · exact (write_reaches set _).bind typed
  · exact typed

theorem drawPolyline_reaches (here : d.pages = page) (first : Point α) (rest : List (Point α))
    (closed : Bool) (options : LineOptions α) :
    (drawPolyline page (first :: rest) closed options).Reaches Failure.OfCanvas d ()
      (d.after [.lineWidth options.width, options.style.canvas, .path (pathSteps first rest closed)]) :=
  (guardPage_reaches here).bind <| (draw_reaches d _).bind <| (write_reaches _ _).bind <|
    (draw_reaches _ _).bind <| (write_reaches _ _).bind <| draw_reaches _ _

omit [Scalar α] in
theorem read_of_pixels? {disk : Disk} {file : Path} (image : (pixels? disk file).isSome) :
    ∃ width height, disk.read file = .ok (.image width height) := by
  unfold pixels? at image
  split at image
  next width height read => exact ⟨width, height, read⟩
  next => cases image

/-- The call that puts an image of the given size at a place. -/
def imageCall (file : Path) (place : Point α) (size : Size α) : CanvasCall α :=
  .image file (onCanvas place.x) (onCanvas place.y) (onCanvas size.width) (onCanvas size.height)

/-- What keeps an image of the given size from being written at a place. -/
def imageFlaw? (place : Point α) (size : Size α) : Option Failure :=
  unwritten? (frameNumbers (onCanvas place.x) (onCanvas place.y) (onCanvas size.width) (onCanvas size.height))

/-- An image is drawn by one call, whether its frame can be written or not. -/
theorem drawImage_outcome {width height : Nat} (here : d.pages = page) {file : Path}
    (image : d.disk.read file = .ok (.image width height)) (place : Point α) (natural : Size α)
    (scaleX scaleY : α) :
    let scaled : Size α := ⟨natural.width * scaleX, natural.height * scaleY⟩
    (drawImage page file place natural scaleX scaleY).outcome d =
      ((imageFlaw? place scaled).elim (.ok ()) .error, d.after [imageCall file place scaled]) := by
  intro scaled
  have guarded : (guardPage page).outcome d = (.ok (), d) := by rw [guardPage_outcome, if_pos here]
  rw [drawImage, Act.outcome_bind_ok guarded, outcome_draw_bind, Act.outcome_get_bind]
  simp only [after, image]
  exact write_outcome _ _

theorem drawImage_reaches (here : d.pages = page) {file : Path} (image : (pixels? d.disk file).isSome)
    (origin : Point α) (natural : Size α) (scaleX scaleY : α) :
    (drawImage page file origin natural scaleX scaleY).Reaches Failure.OfCanvas d ()
      (d.after [.image file (onCanvas origin.x) (onCanvas origin.y) (onCanvas (natural.width * scaleX))
        (onCanvas (natural.height * scaleY))]) := by
  obtain ⟨width, height, read⟩ := read_of_pixels? image
  rw [Act.Reaches, drawImage_outcome here read]
  cases flawed : imageFlaw? origin ⟨natural.width * scaleX, natural.height * scaleY⟩ with
  | some failure => exact Or.inr ⟨failure, rfl, ofCanvas_of_unwritten? flawed⟩
  | none => exact Or.inl rfl

/-- The natural size of the image in a file, as documents with a resolution tell it. -/
def naturalSize (disk : Disk) (resolution : α) (file : Path) : Except Failure (Size α) :=
  match disk.holds file with
  | .error reason => .error (.system reason file)
  | .ok false => .error (Fault.missingPhoto file).toFailure
  | .ok true =>
    match pixels? disk file with
    | none => .error (Fault.unreadablePhoto file "no image").toFailure
    | some (width, height) =>
      if Scalar.isZero resolution then .error .divisionByZero
      else .ok ⟨millimetresOfPixels resolution width, millimetresOfPixels resolution height⟩

theorem imageSize_outcome (d : Document α) (file : Path) :
    (imageSize file).outcome d = (naturalSize d.disk d.resolution file, d) := by
  unfold imageSize naturalSize
  rw [Act.outcome_get_bind]
  cases d.disk.holds file with
  | error reason => rfl
  | ok there =>
    cases there with
    | false => rfl
    | true =>
      cases pixels? d.disk file with
      | none => rfl
      | some pixels =>
        dsimp only [Except.mapError, Act.ofResult_ok, pure_bind]
        by_cases zero : Scalar.isZero d.resolution
        · simp [zero]
        · simp [zero]

/-- What is told of an image is its size or why there is none; a size is told of images only. -/
theorem naturalSize_cases (disk : Disk) (resolution : α) (file : Path) :
    match naturalSize disk resolution file with
    | .ok _ => (pixels? disk file).isSome
    | .error failure => ¬ failure.OfClosedPage := by
  unfold naturalSize
  cases disk.holds file with
  | error reason => exact nofun
  | ok there =>
    cases there with
    | false => exact nofun
    | true =>
      dsimp only
      cases pixels? disk file with
      | none => exact nofun
      | some pixels =>
        dsimp only
        by_cases zero : Scalar.isZero resolution
        · rw [if_pos zero]
          exact nofun
        · rw [if_neg zero]
          rfl

theorem stringWidth_outcome {face : String} (known : d.finds face) (text : String) (size : α) :
    (stringWidth text face size).outcome d = (.ok (millimetresOfPoints (d.textWidth text face size)), d) := by
  rw [stringWidth, Act.outcome_get_bind, if_pos known]
  rfl

omit [Scalar α] in
theorem newPage_outcome (d : Document α) :
    (newPage : Act (Document α) Nat).outcome d = (.ok (d.pages + 1),
      { d.after (if d.pages = 0 then [] else [.nextPage]) with pages := d.pages + 1 }) := by
  rw [newPage, Act.outcome_get_bind]
  by_cases first : d.pages = 0
  · rw [if_pos first, if_neg (by omega)]
    rfl
  · rw [if_neg first, if_pos (by omega)]
    rfl

omit [Scalar α] in
/-- A document without pages is given one, with no call on its canvas. -/
theorem firstPage_outcome (next : Act (Document α) β) (d : Document α) :
    (if d.pages = 0 then newPage >>= fun _ => next else next).outcome d =
      next.outcome { d with pages := max d.pages 1 } := by
  by_cases first : d.pages = 0
  · rw [if_pos first, Act.outcome_bind_ok (newPage_outcome d), if_pos first, first]
    rfl
  · rw [if_neg first, Nat.max_eq_left (Nat.pos_of_ne_zero first)]

omit [Scalar α] in
/-- Faces as the registry of a document has them after a registration. -/
theorem register_outcome (fonts : FontRegistry) (d : Document α) :
    (register fonts).outcome d =
      match registerAll d.disk d.faces fonts.faces with
      | .error failure => (.error failure, d)
      | .ok faces => (.ok (), { d with faces := faces, loaded := faces.drop d.faces.length }) := by
  rw [register, Act.outcome_get_bind]
  cases registerAll d.disk d.faces fonts.faces <;> rfl

theorem registerFace_mem {disk : Disk} {known after : List String} {name : String} {file : Path}
    (registered : registerFace disk known name file = .ok after) :
    (∀ other ∈ known, other ∈ after) ∧ name ∈ after := by
  unfold registerFace at registered
  by_cases member : name ∈ known
  · rw [if_pos member] at registered
    cases registered
    exact ⟨fun _ => id, member⟩
  · rw [if_neg member] at registered
    have added : known ++ [name] = after := by
      repeat' split at registered
      all_goals cases registered
      rfl
    rw [← added]
    exact ⟨fun _ old => List.mem_append_left _ old, List.mem_append_right _ (List.mem_singleton_self name)⟩

/-- A registration forgets no face, and all of its own are known after it. -/
theorem registerAll_mem {disk : Disk} {known after : List String} {faces : List (String × Path)}
    (registered : registerAll disk known faces = .ok after) :
    (∀ name ∈ known, name ∈ after) ∧ ∀ name ∈ faces.map (·.1), name ∈ after := by
  induction faces generalizing known with
  | nil =>
    cases registered
    exact ⟨fun _ => id, nofun⟩
  | cons face rest ih =>
    cases first : registerFace disk known face.1 face.2 with
    | error failure => simp [registerAll, first] at registered
    | ok further =>
      simp only [registerAll, first] at registered
      obtain ⟨kept, others⟩ := ih registered
      obtain ⟨old, new⟩ := registerFace_mem first
      refine ⟨fun name member => kept name (old name member), ?_⟩
      simp only [List.map_cons, List.forall_mem_cons]
      exact ⟨kept face.1 new, others⟩

omit [Scalar α] in
/-- A document whose faces have been registered differs in nothing else, and finds all of them. -/
theorem register_finds {fonts : FontRegistry} {d document : Document α}
    (registered : (register fonts).outcome d = (.ok (), document)) :
    document = { d with faces := document.faces, loaded := document.loaded } ∧
      ∀ face ∈ fonts.names, document.finds face := by
  rw [register_outcome] at registered
  cases known : registerAll d.disk d.faces fonts.faces with
  | error failure =>
    rw [known] at registered
    cases registered
  | ok faces =>
    rw [known] at registered
    cases registered
    refine ⟨rfl, fun face member => ?_⟩
    have there := (registerAll_mem known).2 face member
    simp [finds, there]

/-- A property of computations on documents that those have whose parts have it. What is done with a document
that is looked at does not depend on its reports. -/
structure Compositional (holds : {β : Type} → Act (Document α) β → Prop) : Prop where
  pure {β : Type} (x : β) : holds (Pure.pure x)
  throw {β : Type} (failure : Failure) : holds (MonadExcept.throw failure : Act (Document α) β)
  bind {β γ : Type} {act : Act (Document α) β} {next : β → Act (Document α) γ} :
    holds act → (∀ x, holds (next x)) → holds (act >>= next)
  get {β : Type} {next : Document α → Act (Document α) β} :
    (∀ d reports, next { d with reports := reports } = next d) → (∀ d, holds (next d)) →
      holds (MonadState.get >>= next)

namespace Compositional

variable {holds : {β : Type} → Act (Document α) β → Prop}

omit [Scalar α] in
theorem ite (condition : Prop) [Decidable condition] {yes no : Act (Document α) β} (first : holds yes)
    (second : holds no) : holds (if condition then yes else no) := by
  split
  · exact first
  · exact second

variable (parts : Compositional holds)
include parts

omit [Scalar α] in
theorem ofResult (result : Except Failure β) : holds (Act.ofResult result : Act (Document α) β) := by
  cases result with
  | ok x => exact parts.pure x
  | error failure => exact parts.throw failure

omit [Scalar α] in
theorem guardPage (page : Nat) : holds (guardPage page) :=
  parts.get (fun _ _ => rfl) fun _ => ite _ (parts.throw _) (parts.pure _)

theorem write (numbers : List α) : holds (write numbers) := by
  unfold Document.write
  cases unwritten? numbers with
  | none => exact parts.pure _
  | some failure => exact parts.throw failure

/-- A text is drawn by two calls. -/
theorem drawText {text face : String} {origin : Point α} {size : α} (set : holds (draw (.font face size)))
    (put : holds (draw (.text (onCanvas origin.x) (onCanvas origin.y) text))) (page : Nat) :
    holds (drawText page text origin face size) := by
  refine parts.bind (parts.guardPage page) fun _ => parts.bind set fun _ =>
    parts.get (fun _ _ => rfl) fun d => ?_
  -- what follows the check of the face, with and without the type written first
  have shown : holds (do
      draw (.text (onCanvas origin.x) (onCanvas origin.y) text)
      Document.write [onCanvas origin.x, onCanvas origin.y]
      if d.loaded.contains face && text != "" then Document.write (typeNumbers size)) :=
    parts.bind put fun _ => parts.bind (parts.write _) fun _ => ite _ (parts.write _) (parts.pure _)
  have typed := ite (!d.loaded.contains face)
    (parts.bind (parts.write (typeNumbers size)) fun _ => shown) shown
  exact ite _ (parts.bind (parts.throw _) fun _ => typed) typed

/-- Lines are drawn by three calls. -/
theorem drawPolyline {options : LineOptions α} (wide : holds (draw (.lineWidth options.width)))
    (styled : holds (draw options.style.canvas)) (along : ∀ steps, holds (draw (.path steps))) (page : Nat)
    (points : List (Point α)) (closed : Bool) : holds (drawPolyline page points closed options) := by
  refine parts.bind (parts.guardPage page) fun _ => parts.bind wide fun _ => parts.bind (parts.write _) fun _ =>
    parts.bind styled fun _ => ?_
  cases points with
  | nil => exact parts.throw _
  | cons first rest => exact parts.bind (parts.write _) fun _ => along _

theorem drawImage {file : Path} (put : ∀ x y width height, holds (draw (.image file x y width height)))
    (page : Nat) (origin : Point α) (natural : Size α) (scaleX scaleY : α) :
    holds (drawImage page file origin natural scaleX scaleY) := by
  refine parts.bind (parts.guardPage page) fun _ => parts.bind (put _ _ _ _) fun _ =>
    parts.get (fun _ _ => rfl) fun d => ?_
  cases d.disk.read file with
  | error reason => exact parts.throw _
  | ok content =>
    cases content with
    | image width height => exact parts.write _
    | _ => exact parts.throw _

theorem stringWidth (text face : String) (size : α) : holds (stringWidth text face size) :=
  parts.get (fun _ _ => rfl) fun _ => ite _ (parts.pure _) (parts.throw _)

theorem imageSize (file : Path) : holds (imageSize file : Act (Document α) (Size α)) := by
  refine parts.get (fun _ _ => rfl) fun d => parts.bind (parts.ofResult _) fun there => ?_
  cases pixels? d.disk file with
  | none => exact ite _ (parts.bind (parts.throw _) fun _ => parts.throw _) (parts.throw _)
  | some pixels =>
    have told (size : Size α) : holds (do
        if Scalar.isZero d.resolution then MonadExcept.throw .divisionByZero
        return size : Act (Document α) (Size α)) :=
      ite _ (parts.bind (parts.throw _) fun _ => parts.pure _) (parts.pure _)
    exact ite _ (parts.bind (parts.throw _) fun _ => told _) (told _)

end Compositional

end Document

end Rirekisho
