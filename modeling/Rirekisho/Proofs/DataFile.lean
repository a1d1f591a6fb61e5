import Rirekisho.CommandLine.Make
import Rirekisho.Proofs.Run
import Rirekisho.Proofs.Yaml.Document

namespace Rirekisho

variable {β γ : Type}

/-- The check is carried out, or it is stopped by an integer that cannot be written. -/
def Checked.Runs : Checked β → Prop
  | .stopped failure => failure = .longInteger
  | _ => True

namespace Checked.Runs

variable {check : Checked β}

theorem map (runs : check.Runs) (f : β → γ) : (f <$> check).Runs := by
  cases check <;> exact runs

theorem seq {f : Checked (β → γ)} (first : f.Runs) (runs : check.Runs) : (f <*> check).Runs := by
  cases f with
  | stopped failure => exact first
  | valid f => cases check <;> exact runs
  | invalid problems => cases check <;> exact runs

theorem also (runs : check.Runs) {further : β → Checked γ} (rest : ∀ x, (further x).Runs) :
    (check.also further).Runs := by
  cases check with
  | valid x => exact rest x
  | invalid problems => trivial
  | stopped failure => exact runs

theorem within (runs : check.Runs) (name : String) : (check.within name).Runs := by
  cases check <;> exact runs

theorem all {checks : List (Checked Unit)} (each : ∀ check ∈ checks, check.Runs) : (Checked.all checks).Runs := by
  induction checks with
  | nil => trivial
  | cons check rest ih =>
    obtain ⟨first, others⟩ := List.forall_mem_cons.mp each
    exact (first.map _).seq (ih others)

end Checked.Runs

section
variable {entries : Entries} {check : Value → Checked β}

theorem Entries.required_runs (runs : ∀ v, (check v).Runs) (name : String) :
    (entries.required name check).Runs := by
  unfold Entries.required
  split
  · exact (runs _).within name
  · trivial

theorem Entries.optional_runs (runs : ∀ v, (check v).Runs) (name : String) (otherwise : β) :
    (entries.optional name otherwise check).Runs := by
  unfold Entries.optional
  split
  · exact (runs _).within name
  · trivial

end

namespace Schema

theorem text_runs (v : Value) : (text v).Runs := by
  unfold text
  split <;> trivial

theorem looseText_runs (v : Value) : (looseText v).Runs := by
  unfold looseText
  split
  · dsimp only
    split <;> trivial
  · trivial
  · exact text_runs v

theorem integer_runs (v : Value) : (integer v).Runs := by
  unfold integer integerOfText integerOfFloat plainInteger
  dsimp only
  repeat' split
  all_goals trivial

theorem month_runs (v : Value) : (month v).Runs := by
  refine (integer_runs v).also fun n => ?_
  unfold between
  repeat' split
  all_goals trivial

theorem path_runs (v : Value) : (path v).Runs := by
  unfold path
  split <;> trivial

section
variable {check : Value → Checked β}

theorem nullable_runs (runs : ∀ v, (check v).Runs) (v : Value) : (nullable check v).Runs := by
  cases v with
  | null => trivial
  | _ => exact (runs _).map some

theorem each_runs (runs : ∀ v, (check v).Runs) (number : Nat) (items : List Value) :
    (each check number items).Runs := by
  induction items generalizing number with
  | nil => trivial
  | cons v rest ih => exact (((runs v).within _).map _).seq (ih (number + 1))

theorem list_runs (runs : ∀ v, (check v).Runs) (v : Value) : (list check v).Runs := by
  unfold list
  split
  · exact each_runs runs 0 _
  · trivial

end

theorem entriesOf_runs {check : Entries → Checked β} (runs : ∀ entries, (check entries).Runs) (name : String)
    (v : Value) : (entriesOf name check v).Runs := by
  unfold entriesOf
  split
  · exact runs _
  · trivial

theorem entryOf_runs (entries : Entries) : (entryOf entries).Runs :=
  (((Entries.optional_runs (nullable_runs looseText_runs) "year" none).map _).seq
    (Entries.optional_runs (nullable_runs month_runs) "month" none)).seq
      (Entries.required_runs looseText_runs "value")

/-- Nothing stops the check of a record but an integer that cannot be written. -/
theorem recordOf_runs (entries : Entries) : (recordOf entries).Runs := by
  have text (field : TextField) : (entries.required field.label looseText).Runs :=
    Entries.required_runs looseText_runs _
  have photo : (entries.required "photo" path).Runs := Entries.required_runs path_runs _
  have list (field : ListField) : (entries.required field.label (list (entriesOf "Entry" entryOf))).Runs :=
    Entries.required_runs (list_runs (entriesOf_runs entryOf_runs "Entry")) _
  unfold recordOf
  refine Checked.Runs.map (Checked.Runs.also (.all ?_) fun _ => photo) _
  intro check member
  obtain ⟨field, _, rfl⟩ := List.mem_map.mp member
  cases field with
  | text field => exact (text field).map _
  | photo => exact photo.map _
  | entries field => exact (list field).map _

end Schema

namespace DataFile

variable {disk : Disk} {path : Path}

/-- What is told of a data file from which no record comes: it cannot be read, its notation is not valid, it
holds no mapping, or its fields are not those of a record. -/
inductive Told (disk : Disk) (path : Path) : Fault → Prop
  | unreadable {reason : SystemFault} : disk.read path = .error reason → reason ≠ .nullInName →
      Told disk path (.unreadableData path reason)
  | format {content : Content} {reason : String} : disk.read path = .ok content →
      Yaml.read (.ofContent content) = .error (.badDocument reason) → Told disk path (.dataFormat path reason)
  | notMapping {content : Content} {value : Value} : disk.read path = .ok content →
      Yaml.read (.ofContent content) = .ok value → (∀ entries, value ≠ .map entries) →
      Told disk path (.dataNotMapping path)
  | fields {content : Content} {entries : List (Value × Value)} {problems : List Problem} :
      disk.read path = .ok content → Yaml.read (.ofContent content) = .ok (.map entries) →
      entries.all hasTextKey = true → Schema.recordOf entries = .invalid problems →
      Told disk path (.dataFields path problems)

/-- What is not told of a data file: its path has a null character, its bytes are no text, a value of its
notation cannot be built, a key is no text, or an integer that stands for a text has too many digits. -/
inductive Escapes (disk : Disk) (path : Path) : Failure → Prop
  | nullInName : disk.read path = .error .nullInName → Escapes disk path (.system .nullInName path)
  | undecodable {content : Content} : disk.read path = .ok content → content.text? = none →
      Escapes disk path .undecodable
  | value {content : Content} {failure : Failure} : disk.read path = .ok content →
      Yaml.read (.ofContent content) = .error failure → failure.OfDocument →
      (∀ reason, failure ≠ .badDocument reason) → Escapes disk path failure
  | keyNotText {content : Content} {entries : List (Value × Value)} : disk.read path = .ok content →
      Yaml.read (.ofContent content) = .ok (.map entries) → entries.all hasTextKey = false →
      Escapes disk path .keyNotText
  | longInteger {content : Content} {entries : List (Value × Value)} : disk.read path = .ok content →
      Yaml.read (.ofContent content) = .ok (.map entries) → entries.all hasTextKey = true →
      Schema.recordOf entries = .stopped .longInteger → Escapes disk path .longInteger

/-- What is told of a data file is a fault of the file, and one of its data if it can be read. -/
theorem Told.family {fault : Fault} (told : Told disk path fault) :
    fault.family = if (disk.read path).isOk then .data else .resource := by
  cases told with
  | unreadable read => rw [read]; rfl
  | format read => rw [read]; rfl
  | notMapping read => rw [read]; rfl
  | fields read => rw [read]; rfl

/-- No failure that goes through is a fault. -/
theorem Escapes.not_fault {failure : Failure} (escapes : Escapes disk path failure) (fault : Located Fault) :
    failure ≠ .fault fault := by
  rintro rfl
  cases escapes with
  | value _ _ own _ => exact own

/-- The failure is told of the data file, or it goes through. -/
def Refused (disk : Disk) (path : Path) (failure : Failure) : Prop :=
  (∃ fault, failure = fault.toFailure ∧ Told disk path fault) ∨ Escapes disk path failure

/-- What is told of a source that is no document is a fault, what else stops it goes through. -/
theorem value_judged {content : Content} (read : disk.read path = .ok content) :
    Ends (Refused disk path) (fun value => Yaml.read (.ofContent content) = .ok value)
      (value path (.ofContent content)) := by
  have ends := Yaml.read_ends (.ofContent content)
  unfold value
  cases parsed : Yaml.read (.ofContent content) with
  | ok v => exact rfl
  | error failure =>
    by_cases format : ∃ reason, failure = .badDocument reason
    · obtain ⟨reason, rfl⟩ := format
      exact Or.inl ⟨_, rfl, .format read parsed⟩
    · have other : ∀ reason, failure ≠ .badDocument reason := fun reason same => format ⟨reason, same⟩
      have escapes : Escapes disk path failure := by
        rcases ends.of_error parsed with own | behind
        · exact .value read parsed own other
        · rcases Yaml.Source.obstacle_ofContent behind with own | ⟨rfl, none⟩
          · exact .value read parsed own other
          · exact .undecodable read none
      cases failure with
      | badDocument reason => exact absurd rfl (other reason)
      | _ => exact Or.inr escapes

theorem recordOf_judged {content : Content} {value : Value} (read : disk.read path = .ok content)
    (parsed : Yaml.read (.ofContent content) = .ok value) :
    Ends (Refused disk path) (fun record => ∃ entries, value = .map entries ∧ entries.all hasTextKey = true ∧
      Schema.recordOf entries = .valid record) (recordOf path value) := by
  unfold recordOf
  split
  next entries =>
    cases keys : entries.all hasTextKey with
    | false => exact Or.inr (.keyNotText read parsed keys)
    | true =>
      have runs := Schema.recordOf_runs entries
      cases checked : Schema.recordOf entries with
      | valid record => exact ⟨entries, rfl, keys, checked⟩
      | invalid problems => exact Or.inl ⟨_, rfl, .fields read parsed keys checked⟩
      | stopped failure =>
        rw [checked] at runs
        cases runs
        exact Or.inr (.longInteger read parsed keys checked)
  next other => exact Or.inl ⟨_, rfl, .notMapping read parsed other⟩

/-- A run whose data file cannot be loaded ends with the failure. -/
theorem execute_unloaded {settings : Settings} {order : Order} {run : Run} {failure : Failure}
    (unloaded : load run.disk order.data = .error failure) :
    ((Run.execute settings order).outcome run).1 = .error failure := by
  have loading : (Run.readData order.data).outcome (run.told (.stageStarted .loadData)) =
      (.error failure, run.told (.stageStarted .loadData)) := by
    rw [Run.readData, Act.outcome_get_bind, show (run.told (.stageStarted .loadData)).disk = run.disk from rfl,
      unloaded]
    rfl
  have stage := Run.during_outcome .loadData (Run.readData order.data) run
  rw [loading] at stage
  rw [Run.execute, Act.outcome_bind_error stage]

/-- A data file holds a record, or it is told what is wrong with it and the run ends with the exit code for
this; or else the failure is one of those that go through, and the run ends with it. -/
theorem load_told (disk : Disk) (path : Path) (settings : Settings) (script output : Path)
    (typecase : Typecase Float) :
    let code := CommandLine.exitCode
      ((Run.execute settings ⟨path, script, output⟩).outcome { disk := disk, typecase := typecase }).1
    match load disk path with
    | .ok record => ∃ content entries, disk.read path = .ok content ∧
        Yaml.read (.ofContent content) = .ok (.map entries) ∧ entries.all hasTextKey = true ∧
        Schema.recordOf entries = .valid record
    | .error failure =>
      (∃ fault, failure = fault.toFailure ∧ Told disk path fault ∧
        fault.family = (if (disk.read path).isOk then .data else .resource) ∧ code = .ok 1) ∨
      Escapes disk path failure ∧ (∀ fault, failure ≠ .fault fault) ∧ code = .error failure := by
  intro code
  have ends : Ends (Refused disk path) (fun record => ∃ content entries, disk.read path = .ok content ∧
        Yaml.read (.ofContent content) = .ok (.map entries) ∧ entries.all hasTextKey = true ∧
        Schema.recordOf entries = .valid record) (load disk path) := by
    unfold load source
    cases read : disk.read path with
    | error reason =>
      cases reason with
      | nullInName => exact Or.inr (.nullInName read)
      | _ => exact Or.inl ⟨_, rfl, .unreadable read nofun⟩
    | ok content =>
      refine (value_judged read).bind fun value parsed => ?_
      refine (recordOf_judged read parsed).mono (fun _ => id) ?_
      rintro record ⟨entries, rfl, keys, checked⟩
      exact ⟨content, entries, rfl, parsed, keys, checked⟩
  cases loaded : load disk path with
  | ok record =>
    rw [loaded] at ends
    exact ends
  | error failure =>
    rw [loaded] at ends
    have ended : code = CommandLine.exitCode (.error failure) :=
      congrArg CommandLine.exitCode (execute_unloaded loaded)
    rcases ends with ⟨fault, rfl, told⟩ | escapes
    · exact Or.inl ⟨fault, rfl, told, told.family, ended⟩
    · have other := escapes.not_fault
      refine Or.inr ⟨escapes, other, ended.trans ?_⟩
      cases failure with
      | fault fault => exact absurd rfl (other fault)
      | _ => rfl

/-- A file of two bytes that are no text: it can be read, and nothing is told of it. -/
theorem load_undecodable :
    let disk : Disk := ⟨[], [(["data.yaml"], .file (.bytes ⟨#[0xff, 0x00]⟩))], []⟩
    let path : Path := ⟨.here, ["data.yaml"]⟩
    load disk path = .error .undecodable ∧ ∀ fault, load disk path ≠ .error (.fault fault) := by
  intro disk path
  have text : (Yaml.Source.ofContent (.bytes ⟨#[0xff, 0x00]⟩)).text = [] := by decide +kernel
  have behind : (Yaml.Source.ofContent (.bytes ⟨#[0xff, 0x00]⟩)).obstacle = some .undecodable := by
    decide +kernel
  have opened : source disk path = .ok ⟨[], some .undecodable⟩ :=
    congrArg Except.ok (congrArg₂ Yaml.Source.mk text behind)
  have loaded : load disk path = .error .undecodable := by
    rw [load, opened]
    rfl
  exact ⟨loaded, fun fault same => nomatch loaded.symm.trans same⟩

end DataFile

end Rirekisho
