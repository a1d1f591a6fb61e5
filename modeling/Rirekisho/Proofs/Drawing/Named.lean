import Mathlib.Algebra.Ring.Rat
import Rirekisho.Drawing.Recorder
import Rirekisho.Proofs.Drawing.Invariant
import Rirekisho.Proofs.Drawing.Sequence

namespace Rirekisho

variable {α σ β : Type}

/-- The directive shows the text: it is what the value of the directive stands for. -/
def Directive.NamesText (field : TextField) : Directive α → Prop
  | .string _ value _ | .textBox _ _ value _ => value = Variable.ofText field
  | _ => False

/-- The directive shows the list: it is what the value of the directive stands for, or the directive is made
for it. -/
def Directive.NamesList (field : ListField) : Directive α → Prop
  | .history _ value _ => value = Variable.ofList field
  | .educationExperience .. => field = .education ∨ field = .experience
  | _ => False

/-- The records agree on all that the commands name. Nothing is said of their photos. -/
structure Record.AgreesOn (commands : List (Command α)) (record other : Record) : Prop where
  text {command : Command α} {field : TextField} : command ∈ commands →
    command.directive.NamesText field → record.text field = other.text field
  entries {command : Command α} {field : ListField} : command ∈ commands →
    command.directive.NamesList field → record.entries field = other.entries field

theorem Variable.text?_some {value : String} {field : TextField} (found : text? value = some field) :
    value = ofText field := by
  have named := List.find?_some found
  exact (eq_of_beq named).symm

theorem Variable.list?_some {value : String} {field : ListField} (found : list? value = some field) :
    value = ofList field := by
  have named := List.find?_some found
  exact (eq_of_beq named).symm

section
variable {record other : Record} {value : String}

/-- Of the texts of a record only the one that the value stands for is looked at. -/
theorem Record.resolveText_congr
    (same : ∀ field, value = Variable.ofText field → record.text field = other.text field) :
    record.resolveText value = other.resolveText value := by
  unfold resolveText
  cases found : Variable.text? value with
  | none => rfl
  | some field => simp only [same field (Variable.text?_some found)]

theorem Record.resolveList_congr
    (same : ∀ field, value = Variable.ofList field → record.entries field = other.entries field) :
    record.resolveList value = other.resolveList value := by
  unfold resolveList
  cases found : Variable.list? value with
  | none => rfl
  | some field => simp only [same field (Variable.list?_some found)]

/-- Records that agree on what a directive names give it the same. -/
theorem Directive.readsAlike {directive : Directive α}
    (texts : ∀ field, directive.NamesText field → record.text field = other.text field)
    (lists : ∀ field, directive.NamesList field → record.entries field = other.entries field) :
    directive.ReadsAlike record other := by
  cases directive with
  | string | textBox => exact Record.resolveText_congr texts
  | history => exact Record.resolveList_congr lists
  | educationExperience => exact ⟨lists .education (Or.inl rfl), lists .experience (Or.inr rfl)⟩
  | line | box | photo | newPage | multiLines | polyline | yearMonthBox | miscBox => trivial

end

/-- Nothing is asked of what is to be kept. -/
theorem Act.keeps_anything (act : Act σ β) : act.Keeps (fun _ => True) (fun _ => True) fun _ => True :=
  .of_outcome fun _ _ => trivial

theorem Sink.keeps_anything (fonts : FontRegistry) (sink : Sink α σ) :
    sink.Keeps (fun _ => True) (fun _ => True) (fun _ => True) fonts where
  drawText _ _ _ _ _ := Act.keeps_anything _
  drawPolyline _ _ _ _ := Act.keeps_anything _
  drawImage _ _ _ _ _ _ := Act.keeps_anything _
  stringWidth _ _ _ := Act.keeps_anything _
  imageSize _ := Act.keeps_anything _
  report _ := Act.keeps_anything _
  unplaced _ _ := trivial

/-- A drawing and itself, with nothing asked of it. -/
def Pairing.free : Pairing α σ σ := .itself (fun _ => True) (fun _ => True) fun _ => True

theorem Sink.free_sinks (job : Job α) (sink : Sink α σ) : Pairing.free.Sinks job.fonts sink sink :=
  (Sink.keeps_anything job.fonts sink).sinks

theorem Act.free_alike (act : Act σ Nat) :
    (Pairing.free (α := α)).Alike (Pairing.free (α := α) (σ := σ)).pages act act :=
  act.keeps_anything.alike

/-- A drawing that is alike to one beside it from every state is the same. -/
theorem Pairing.Alike.outcome_eq {act other : Act σ Nat}
    (alike : (Pairing.free (α := α)).Alike (Pairing.free (α := α) (σ := σ)).pages act other) (s : σ) :
    act.outcome s = other.outcome s := by
  have agree := alike s s ⟨rfl, trivial⟩
  generalize act.outcome s = u at agree ⊢
  generalize other.outcome s = v at agree ⊢
  cases agree with
  | ok related kept => rw [related.1, kept.1]
  | error related kept => rw [related.1, kept.1]

section
variable [Scalar α] {record other : Record} {commands : List (Command α)}

theorem drawAll_named (sink : Sink α σ) (job : Job α) (agree : Record.AgreesOn commands record other)
    (page : Nat) (s : σ) :
    (drawAll sink { job with record := record } page commands).outcome s =
      (drawAll sink { job with record := other } page commands).outcome s := by
  have jobs : Pairing.free.Jobs { job with record := record } { job with record := other } (σ := σ) (τ := σ) :=
    ⟨rfl, rfl, fun _ => rfl, fun _ same => congrArg (· + _) same, fun _ same => congrArg (· - _) same⟩
  refine (Pairing.drawAll_alike (sink.free_sinks { job with record := record }) jobs ?_ sink.newPage.free_alike
    ⟨rfl, trivial⟩ commands fun command member => ?_).outcome_eq s
  · rintro line keyword failure _ ⟨rfl, -⟩
    exact ⟨rfl, trivial⟩
  · exact Directive.readsAlike (fun _ => agree.text member) fun _ => agree.entries member

/-- Two records that agree on all that the commands name are drawn by the same requests to the sink, with the
same outcome; so they are too when something that is no command follows. -/
theorem render_named (sink : Sink α σ) (job : Job α) (agree : Record.AgreesOn commands record other) (s : σ) :
    (render sink { job with record := record } commands).outcome s =
        (render sink { job with record := other } commands).outcome s ∧
      (renderUntilStray sink { job with record := record } commands).outcome s =
        (renderUntilStray sink { job with record := other } commands).outcome s := by
  have same (page : Nat) : drawAll sink { job with record := record } page commands =
      drawAll sink { job with record := other } page commands :=
    funext (drawAll_named sink job agree page)
  constructor
  · simp only [render, same]
  · simp only [renderUntilStray, same]

end

/-- A name and a list of schools, of a person who has changed everything else. -/
theorem render_named_changed :
    let record : Record := ⟨fun _ => "", Path.ofText "photo.jpg", fun _ => [⟨some "2001", some 4, "入学"⟩]⟩
    let other : Record := ⟨fun field => if field = .name then "" else "$name", Path.ofText "other.jpg",
      fun field => if field = .education then record.entries field else []⟩
    let commands : List (Command Rat) := [⟨some 1, .string ⟨0, 0⟩ "$name" {}⟩,
      ⟨some 2, .history ⟨0, 0, 10, 20, 7⟩ "$education" {}⟩, ⟨some 3, .miscBox "" 0 10 "$hobby"⟩]
    Record.AgreesOn commands record other ∧
      (render (recorder ⟨30, 40⟩) { Job.bare with record := record } commands).outcome {} =
        (render (recorder ⟨30, 40⟩) { Job.bare with record := other } commands).outcome {} := by
  intro record other commands
  have agree : Record.AgreesOn commands record other := by
    constructor
    · intro command field member named
      simp only [commands, List.mem_cons, List.not_mem_nil, or_false] at member
      rcases member with rfl | rfl | rfl
      · change "$name" = Variable.ofText field at named
        cases field <;> first | rfl | exact absurd named (by decide)
      · exact named.elim
      · exact named.elim
    · intro command field member named
      simp only [commands, List.mem_cons, List.not_mem_nil, or_false] at member
      rcases member with rfl | rfl | rfl
      · exact named.elim
      · change "$education" = Variable.ofList field at named
        cases field <;> first | rfl | exact absurd named (by decide)
      · exact named.elim
  exact ⟨agree, (render_named (recorder ⟨30, 40⟩) Job.bare agree {}).1⟩

end Rirekisho
