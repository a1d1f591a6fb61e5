import Rirekisho.Proofs.Drawing.Lettering
import Rirekisho.Proofs.Drawing.Whole

namespace Rirekisho

variable {α σ τ β γ δ ε : Type}

namespace Directive

/-- The value of the directive, if it has one, stands for what the directive draws. -/
def Resolves (record : Record) : Directive α → Prop
  | .string _ value _ | .textBox _ _ value _ => ∃ text, record.Means value text
  | .history _ value _ => ∃ field, value = Variable.ofList field
  | _ => True

/-- The directive is a table in a face that is not registered, of a list that has no entries. -/
def Unnoticed (fonts : FontRegistry) (record : Record) : Directive α → Prop
  | .history _ value font =>
    font.givenFace.getD "mincho" ∉ fonts.names ∧ ∃ field, value = Variable.ofList field ∧ record.entries field = []
  | _ => False

end Directive

theorem FontRegistry.resolve_of_not_mem {fonts : FontRegistry} {face : String} (unregistered : face ∉ fonts.names) :
    fonts.resolve face = .error (.unregisteredFont face fonts.names) := if_neg unregistered

theorem Variable.list?_ofList (field : ListField) : list? (ofList field) = some field := by
  cases field <;> rfl

theorem Variable.ofList_inj {field other : ListField} : ofList field = ofList other ↔ field = other := by
  refine ⟨fun same => ?_, congrArg ofList⟩
  have found := list?_ofList field
  rw [same, list?_ofList other] at found
  exact (Option.some.inj found).symm

/-- A value is resolved to the list of the record that it names. -/
theorem Record.resolveList_iff {record : Record} {value : String} {entries : List Entry} :
    record.resolveList value = .ok entries ↔
      ∃ field, value = Variable.ofList field ∧ record.entries field = entries := by
  constructor
  · intro resolved
    unfold resolveList at resolved
    split at resolved
    next field found =>
      cases resolved
      exact ⟨field, Variable.list?_some found, rfl⟩
    next => split at resolved <;> cases resolved
  · rintro ⟨field, rfl, rfl⟩
    rw [resolveList, Variable.list?_ofList]

/-- Whether a value can be resolved, and why it cannot, is the same for all records. -/
theorem Record.resolveText_map_eq (record other : Record) (value : String) :
    (record.resolveText value).map (fun _ => ()) = (other.resolveText value).map (fun _ => ()) := by
  unfold resolveText
  split
  · cases Variable.text? value with
    | some field => rfl
    | none => cases Variable.list? value <;> rfl
  · rfl

theorem Record.resolveList_map_eq (record other : Record) (value : String) :
    (record.resolveList value).map (fun _ => ()) = (other.resolveList value).map (fun _ => ()) := by
  unfold resolveList
  cases Variable.list? value with
  | some field => rfl
  | none => cases Variable.text? value <;> rfl

section
variable [Scalar α] {sink : Sink α σ} {job : Job α} {font : FontOptions α}

/-- The face is looked up before anything is drawn. -/
theorem Directive.draw_unregistered {directive : Directive α} (set : directive.font? = some font)
    (unregistered : font.face ∉ job.fonts.names) (resolves : directive.Resolves job.record)
    (noticed : ¬ directive.Unnoticed job.fonts job.record) (page : Nat) :
    directive.draw sink job page = throw (Fault.unregisteredFont font.face job.fonts.names).toFailure := by
  have refused := FontRegistry.resolve_of_not_mem unregistered
  cases directive with
  | string position value own =>
    cases set
    obtain ⟨text, means⟩ := resolves
    simp only [draw, Record.resolveText_iff.mpr means, Act.ofFault_ok, pure_bind, placeText_unregistered refused,
      Act.throw_bind]
  | textBox position size value own =>
    cases set
    obtain ⟨text, means⟩ := resolves
    rw [draw, drawTextBox, Record.resolveText_iff.mpr means, refused]
    rfl
  | history columns value own =>
    cases set
    obtain ⟨field, rfl⟩ := resolves
    have resolved : job.record.resolveList (Variable.ofList field) = .ok (job.record.entries field) :=
      Record.resolveList_iff.mpr ⟨field, rfl, rfl⟩
    rw [draw, resolved]
    cases listed : job.record.entries field with
    | nil => exact absurd ⟨unregistered, field, rfl, listed⟩ noticed
    | cons entry rest =>
      simp only [Act.ofFault_ok, pure_bind, drawEntries, placeText_unregistered refused, Act.throw_bind]
  | educationExperience columns captionX endX own =>
    cases set
    simp only [draw, drawCaptioned_unregistered refused, Act.throw_bind]
  | _ => cases set

theorem Directive.draw_unnoticed {directive : Directive α}
    (unnoticed : directive.Unnoticed job.fonts job.record) (page : Nat) :
    directive.draw sink job page = pure page := by
  cases directive with
  | history columns value own =>
    obtain ⟨-, field, rfl, empty⟩ := unnoticed
    rw [draw, Record.resolveList_iff.mpr ⟨field, rfl, empty⟩]
    rfl
  | _ => exact unnoticed.elim

end

/-- The computations end alike, from whatever states: both with a result, or both with the same failure. -/
def Act.EndsAs (act : Act σ β) (other : Act τ γ) : Prop :=
  ∀ s t, (act.outcome s).1.map (fun _ => ()) = (other.outcome t).1.map (fun _ => ())

namespace Act.EndsAs

theorem pure (x : β) (y : γ) : (Pure.pure x : Act σ β).EndsAs (Pure.pure y : Act τ γ) := fun _ _ => rfl

theorem throw (failure : Failure) :
    (MonadExcept.throw failure : Act σ β).EndsAs (MonadExcept.throw failure : Act τ γ) := fun _ _ => rfl

theorem of_sure {act : Act σ β} {other : Act τ γ} (sure : act.Sure) (surely : other.Sure) : act.EndsAs other := by
  intro s t
  obtain ⟨x, s', run⟩ := sure s
  obtain ⟨y, t', ran⟩ := surely t
  rw [run, ran]
  rfl

theorem bind {act : Act σ β} {other : Act τ γ} {next : β → Act σ δ} {after : γ → Act τ ε}
    (first : act.EndsAs other) (rest : ∀ x y, (next x).EndsAs (after y)) :
    (act >>= next).EndsAs (other >>= after) := by
  intro s t
  have same := first s t
  rw [outcome_bind, outcome_bind]
  cases run : act.outcome s with
  | mk result s' =>
    cases ran : other.outcome t with
    | mk answer t' =>
      rw [run, ran] at same
      cases result <;> cases answer <;> cases same
      · rfl
      · exact rest _ _ s' t'

/-- Questions that have the same reply from all states. -/
theorem told {act : Act σ β} {other : Act τ β} {reply : Except Failure β} {next : β → Act σ δ} {after : β → Act τ ε}
    (first : ∀ s, (act.outcome s).1 = reply) (second : ∀ t, (other.outcome t).1 = reply)
    (rest : ∀ x, (next x).EndsAs (after x)) : (act >>= next).EndsAs (other >>= after) := by
  intro s t
  have answer := first s
  have again := second t
  rw [outcome_bind, outcome_bind]
  cases run : act.outcome s with
  | mk result s' =>
    cases ran : other.outcome t with
    | mk result' t' =>
      rw [run] at answer
      rw [ran] at again
      cases reply <;> cases answer <;> cases again
      · rfl
      · exact rest _ s' t'

/-- Checks that fail in the same way or not at all. -/
theorem ofFault {check : Except Fault β} {recheck : Except Fault γ} {next : β → Act σ δ} {after : γ → Act τ ε}
    (same : check.map (fun _ => ()) = recheck.map (fun _ => ()))
    (rest : ∀ x y, check = .ok x → recheck = .ok y → (next x).EndsAs (after y)) :
    (Act.ofFault check >>= next).EndsAs (Act.ofFault recheck >>= after) := by
  cases check <;> cases recheck <;> cases same
  · exact .throw _
  · exact rest _ _ rfl rfl

theorem located {act : Act σ β} {other : Act τ γ} (line : Option Int) (keyword : Option String)
    (ends : act.EndsAs other) : (act.located line keyword).EndsAs (other.located line keyword) := by
  intro s t
  have same := ends s t
  rw [outcome_located, outcome_located]
  generalize (act.outcome s).1 = result at same ⊢
  generalize (other.outcome t).1 = answer at same ⊢
  cases result <;> cases answer <;> cases same <;> rfl

end Act.EndsAs

/-- A sink that does all that it is asked for. Only of an image may it say, always in the same way, why it has no
size. -/
structure Sink.Telling (sink : Sink α σ) (natural : Path → Except Failure (Size α)) : Prop extends sink.Ready where
  stringWidth text face size : (sink.stringWidth text face size).Sure
  imageSize path s : ((sink.imageSize path).outcome s).1 = natural path

theorem Sink.recording_telling (width : String → String → α → α)
    (natural : Path → Except (Located Fault) (Size α)) :
    (Sink.recording (.measuring width natural)).Telling fun path => (natural path).mapError .fault where
  toReady := recording_ready _
  stringWidth _ _ _ := fun _ => ⟨_, _, rfl⟩
  imageSize path r := by
    rw [recording_imageSize]
    rfl

section
variable [Scalar α] {sink : Sink α σ} {natural : Path → Except Failure (Size α)} (telling : sink.Telling natural)
  {job : Job α} (other : Record) {font : FontOptions α} (p q : Nat)
include telling

theorem placeText_endsAs (place place' : Point α) (text text' : String) :
    (placeText sink job p place text font).EndsAs
      (placeText sink { job with record := other } q place' text' font) := by
  let next : Job α := { job with record := other }
  cases resolved : job.fonts.resolve font.face with
  | ok face =>
    have again : next.fonts.resolve font.face = .ok face := resolved
    exact .of_sure (placeText_sure telling.toReady resolved p place text)
      (placeText_sure telling.toReady again q place' text')
  | error fault =>
    have again : next.fonts.resolve font.face = .error fault := resolved
    rw [placeText_unregistered resolved, placeText_unregistered again]
    exact .throw _

/-- Of the entries of a table it matters at most whether there are any. -/
theorem drawEntries_endsAs (columns : TableColumns α) (y y' : α) {entries others : List Entry}
    (alike : font.face ∉ job.fonts.names → (entries = [] ↔ others = [])) :
    (drawEntries sink job p columns font y entries).EndsAs
      (drawEntries sink { job with record := other } q columns font y' others) := by
  let next : Job α := { job with record := other }
  by_cases registered : font.face ∈ job.fonts.names
  · have resolved := FontRegistry.resolve_of_mem registered
    have again : next.fonts.resolve font.face = _ := resolved
    exact .of_sure (drawEntries_sure telling.toReady resolved p columns y entries)
      (drawEntries_sure telling.toReady again q columns y' others)
  · have refused := FontRegistry.resolve_of_not_mem registered
    have again : next.fonts.resolve font.face = _ := refused
    cases entries with
    | nil =>
      rw [(alike registered).mp rfl]
      exact .pure _ _
    | cons entry rest =>
      cases others with
      | nil => cases (alike registered).mpr rfl
      | cons first more =>
        rw [drawEntries, drawEntries, placeText_unregistered refused, placeText_unregistered again, Act.throw_bind,
          Act.throw_bind]
        exact .throw _

theorem drawCaptioned_endsAs (columns : TableColumns α) (captionX y y' : α) (caption : String)
    (entries others : List Entry) :
    (drawCaptioned sink job p columns font captionX y caption entries).EndsAs
      (drawCaptioned sink { job with record := other } q columns font captionX y' caption others) := by
  let next : Job α := { job with record := other }
  cases resolved : job.fonts.resolve font.face with
  | ok face =>
    have again : next.fonts.resolve font.face = .ok face := resolved
    exact .of_sure (drawCaptioned_sure telling.toReady resolved p columns captionX y caption entries)
      (drawCaptioned_sure telling.toReady again q columns captionX y' caption others)
  | error fault =>
    have again : next.fonts.resolve font.face = .error fault := resolved
    rw [drawCaptioned_unregistered resolved, drawCaptioned_unregistered again]
    exact .throw _

theorem drawTextBox_endsAs (place : Point α) (size : Size α) (value : String) :
    (drawTextBox sink job p place size value font).EndsAs
      (drawTextBox sink { job with record := other } q place size value font) := by
  refine .ofFault (Record.resolveText_map_eq job.record other value) fun text text' _ _ =>
    .ofFault rfl fun face _ _ _ => .of_sure ?_ ?_
  all_goals
    refine (telling.drawPolyline _ _ _ _).bind fun _ => .forM _ fun line _ => ?_
    exact (telling.stringWidth _ _ _).bind fun _ => telling.drawText _ _ _ _ _

theorem drawPhoto_endsAs (place : Point α) (size : Size α) :
    (drawPhoto sink job p place size).EndsAs (drawPhoto sink { job with record := other } q place size) := by
  refine .told (telling.imageSize job.photo) (telling.imageSize job.photo) fun size' => ?_
  refine .ofFault rfl fun scales _ _ _ => ?_
  exact .of_sure (telling.drawImage _ _ _ _ _ _) (telling.drawImage _ _ _ _ _ _)

theorem Directive.draw_endsAs {directive : Directive α}
    (alike : directive.Unnoticed job.fonts job.record ↔ directive.Unnoticed job.fonts other) :
    (directive.draw sink job p).EndsAs (directive.draw sink { job with record := other } q) := by
  have ready := telling.toReady
  have turn {act act' : Act σ Unit} (ends : act.EndsAs act') :
      (do act; return p : Act σ Nat).EndsAs (do act'; return q : Act σ Nat) := ends.bind fun _ _ => .pure p q
  cases directive with
  | string position value font =>
    exact .ofFault (Record.resolveText_map_eq job.record other value) fun text text' _ _ =>
      turn (placeText_endsAs telling other p q position position text text')
  | line start delta options =>
    exact turn (.of_sure (ready.drawPolyline _ _ _ _) (ready.drawPolyline _ _ _ _))
  | box position size options =>
    exact turn (.of_sure (ready.drawPolyline _ _ _ _) (ready.drawPolyline _ _ _ _))
  | photo position size => exact turn (drawPhoto_endsAs telling other p q position size)
  | newPage => exact .of_sure ready.newPage ready.newPage
  | textBox position size value font => exact turn (drawTextBox_endsAs telling other p q position size value)
  | multiLines start direction count offset =>
    exact turn (.of_sure (drawMultiLines_sure ready _ _ _ _ _) (drawMultiLines_sure ready _ _ _ _ _))
  | polyline count positions options close =>
    cases positions with
    | nil => exact .throw _
    | cons first ways => exact turn (.of_sure (ready.drawPolyline _ _ _ _) (ready.drawPolyline _ _ _ _))
  | yearMonthBox title height count value => exact turn (.of_sure (ready.report _) (ready.report _))
  | miscBox title y height value => exact turn (.of_sure (ready.report _) (ready.report _))
  | history columns value font =>
    refine .ofFault (Record.resolveList_map_eq job.record other value) fun entries others found again => ?_
    obtain ⟨field, rfl, rfl⟩ := Record.resolveList_iff.mp found
    obtain ⟨_, same, rfl⟩ := Record.resolveList_iff.mp again
    cases Variable.ofList_inj.mp same
    refine (drawEntries_endsAs telling other p q _ _ _ fun unregistered => ?_).bind fun _ _ => .pure p q
    simpa only [Unnoticed, Variable.ofList_inj, exists_eq_left',
      show font.givenFace.getD "mincho" = font.face from rfl, unregistered, not_false_eq_true, true_and]
      using alike
  | educationExperience columns captionX endX font =>
    refine (drawCaptioned_endsAs telling other p q _ _ _ _ _ _ _).bind fun y y' => ?_
    refine (drawCaptioned_endsAs telling other p q _ _ _ _ _ _ _).bind fun y y' => ?_
    exact turn (placeText_endsAs telling other p q _ _ _ _)

theorem drawAll_endsAs (commands : List (Command α))
    (alike : ∀ command ∈ commands, command.directive.Unnoticed job.fonts job.record ↔
      command.directive.Unnoticed job.fonts other) :
    (drawAll sink job p commands).EndsAs (drawAll sink { job with record := other } q commands) := by
  induction commands generalizing p q with
  | nil => exact .pure p q
  | cons command rest ih =>
    obtain ⟨here, later⟩ := List.forall_mem_cons.mp alike
    have first := (Directive.draw_endsAs telling other p q here).located command.line
      (some command.directive.keyword.name)
    exact first.bind fun page page' => ih page page' later

end

/-- A rendering comes to the unregistered face of a command and ends there, and tells it with the place of the
command, whatever sink it is drawn on; only a table of an empty list is passed over. So on a sink that does what it
is asked for, all that a rendering's end owes to the record is which tables are passed over. -/
theorem render_unregistered [Scalar α] {sink : Sink α σ} {job : Job α} {before : List (Command α)}
    {command : Command α} {font : FontOptions α} {last : Nat} {s t : σ}
    (begun : (drawPages sink job before).outcome s = (.ok last, t)) (set : command.directive.font? = some font)
    (unregistered : font.givenFace.getD "mincho" ∉ job.fonts.names)
    (resolves : command.directive.Resolves job.record) :
    let fault : Located Fault := ⟨.unregisteredFont (font.givenFace.getD "mincho") job.fonts.names, command.line,
      some command.directive.keyword.name, none⟩
    (¬ command.directive.Unnoticed job.fonts job.record → ∀ after,
      (render sink job (before ++ command :: after)).outcome s = (.error (.fault fault), t)) ∧
      (command.directive.Unnoticed job.fonts job.record →
        (drawPages sink job (before ++ [command])).outcome s = (.ok last, t)) ∧
      ∀ (natural : Path → Except Failure (Size α)) (other : Record) (commands : List (Command α)),
        sink.Telling natural →
        (∀ command ∈ commands, command.directive.Unnoticed job.fonts job.record ↔
          command.directive.Unnoticed job.fonts other) →
        ∀ s, ((render sink { job with record := other } commands).outcome s).1 =
          ((render sink job commands).outcome s).1 := by
  intro fault
  refine ⟨fun noticed after => ?_, fun unnoticed => ?_, fun natural other commands telling alike s => ?_⟩
  · refine render_stopped begun ?_ after
    rw [Command.draw, Directive.draw_unregistered set unregistered resolves noticed, Act.outcome_located]
    rfl
  · refine drawPages_snoc begun ?_
    rw [Command.draw, Directive.draw_unnoticed unnoticed, Act.outcome_located]
    rfl
  · have opened := telling.newPage
    have ends : (render sink job commands).EndsAs (render sink { job with record := other } commands) :=
      (Act.EndsAs.of_sure opened opened).bind fun p q =>
        (drawAll_endsAs telling other p q commands alike).bind fun _ _ =>
          .of_sure (telling.report _) (telling.report _)
    have same := ends s s
    generalize ((render sink job commands).outcome s).1 = result at same ⊢
    generalize ((render sink { job with record := other } commands).outcome s).1 = answer at same ⊢
    cases result <;> cases answer <;> cases same <;> rfl

/-- Both tables under captions are looked at, also when they have no entries, and so they are for every other
record. -/
theorem render_unregistered_captions :
    let job : Job Rat := { Job.bare with fonts := ⟨[("mincho", Path.ofText "a.ttf")]⟩ }
    let other : Record := { job.record with entries := fun _ => [⟨some "2001", some 4, "入学"⟩] }
    let sink : Sink Rat (Recording Rat) := .recording (.measuring (fun _ _ size => size) fun _ => .ok ⟨40, 30⟩)
    let before : List (Command Rat) := [⟨some 1, .line ⟨0, 0⟩ ⟨20, 0⟩ {}⟩]
    let command : Command Rat := ⟨some 2, .educationExperience ⟨0, 0, 10, 20, 7⟩ 0 0 ⟨none, some "comic"⟩⟩
    let e : Located Fault := ⟨.unregisteredFont "comic" ["mincho"], some 2, some "education_experience", none⟩
    job.record.entries .education = [] ∧ "comic" ∉ job.fonts.names ∧
      ((render sink job (before ++ [command])).outcome {}).1 = .error (.fault e) ∧
      ((render sink { job with record := other } (before ++ [command])).outcome {}).1 = .error (.fault e) := by
  intro job other sink before command e
  have begun : (drawPages sink job before).outcome {} = (.ok 1, _) := rfl
  have unregistered : "comic" ∉ job.fonts.names := by decide
  have set : command.directive.font? = some ⟨none, some "comic"⟩ := rfl
  obtain ⟨ended, -, alike⟩ := render_unregistered begun set unregistered trivial
  have rendered := congrArg Prod.fst (ended id [])
  have telling := Sink.recording_telling (fun _ _ size => size) fun _ => .ok (⟨40, 30⟩ : Size Rat)
  refine ⟨rfl, unregistered, rendered, (alike _ other _ telling ?_ {}).trans rendered⟩
  intro command member
  rcases List.mem_pair.mp member with rfl | rfl <;> exact Iff.rfl

/-- A table in an unregistered face is drawn without a fault as long as its list has no entries, and with the first
entry there is one: the face of a script is accepted for one record and not for another. -/
theorem render_emptyHistory :
    let job : Job Rat := { Job.bare with fonts := ⟨[("mincho", Path.ofText "a.ttf")]⟩ }
    let other : Record := { job.record with entries := fun _ => [⟨some "2001", some 4, "受賞"⟩] }
    let sink : Sink Rat (Recording Rat) := recorder ⟨40, 30⟩
    let command : Command Rat := ⟨some 1, .history ⟨0, 0, 10, 20, 7⟩ "$awards" ⟨none, some "comic"⟩⟩
    command.directive.font?.map FontOptions.face = some "comic" ∧ "comic" ∉ job.fonts.names ∧
      command.directive.Resolves job.record ∧ ((render sink job [command]).outcome {}).1 = .ok () ∧
      ((render sink { job with record := other } [command]).outcome {}).1 =
        .error (.fault ⟨.unregisteredFont "comic" ["mincho"], some 1, some "history", none⟩) := by
  intro job other sink command
  exact ⟨rfl, by decide, ⟨.awards, rfl⟩, rfl, rfl⟩

end Rirekisho
