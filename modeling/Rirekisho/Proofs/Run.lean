import Rirekisho.Proofs.Drawing.Reports
import Rirekisho.Run

namespace Rirekisho

variable {β γ : Type}

/-- The stages, the first one first. -/
def Stage.all : List Stage := [.loadData, .parseStyle, .render, .save]

/-- The stages up to one and with it. -/
def Stage.upTo (stage : Stage) : List Stage := all.take (all.idxOf stage + 1)

theorem Script.load_of_fileText {disk : Disk} {file : Path} {text : String}
    (found : fileText disk file = .ok text) :
    load disk file =
      match read text with
      | .ok commands => .ok commands
      | .error fault => .error (.fault fault) := by
  rw [load, found]
  rfl

namespace Run

/-- What is done with a blank document: its faces are registered, and the commands are drawn on it. -/
def drawing (settings : Settings) (record : Record) (commands : List (Command Float)) :
    Act (Document Float) Unit := do
  Document.register settings.fonts.registry
  render Document.sink (settings.job settings.fonts.registry record) commands

/-- What the stages before the last one come to: a document with everything drawn on it, or the first of
them that fails, with its failure. -/
def prepare (settings : Settings) (order : Order) (disk : Disk) (typecase : Typecase Float) :
    Except (Stage × Failure) (Document Float) := do
  let record ← (DataFile.load disk order.data).mapError fun failure => (.loadData, failure)
  let commands ← (Script.load disk order.script).mapError fun failure => (.parseStyle, failure)
  let drawn := (drawing settings record commands).outcome (settings.blankDocument order.output typecase disk)
  (drawn.1.map fun _ => drawn.2).mapError fun failure => (.render, failure)

theorem prepare_eq {settings : Settings} {order : Order} {disk : Disk} {record : Record}
    {commands : List (Command Float)} (data : DataFile.load disk order.data = .ok record)
    (script : Script.load disk order.script = .ok commands) (typecase : Typecase Float) :
    prepare settings order disk typecase =
      let drawn := (drawing settings record commands).outcome
        (settings.blankDocument order.output typecase disk)
      (drawn.1.map fun _ => drawn.2).mapError fun failure => (.render, failure) := by
  rw [prepare, data, script]
  rfl

/-- The reports of stages when all of them are begun, or all up to one that fails. -/
def stageReports : Option (Stage × Failure) → List Report
  | none => Stage.all.map .stageStarted
  | some (stage, failure) => stage.upTo.map .stageStarted ++ [.stageFailed stage failure]

def told (run : Run) (report : Report) : Run := { run with reports := report :: run.reports }

/-- The reports of stages, the first one first. -/
def stagesTold (run : Run) : List Report := run.reports.reverse.filter Report.isOfStage

theorem stagesTold_told (run : Run) (report : Report) :
    (run.told report).stagesTold = run.stagesTold ++ [report].filter Report.isOfStage := by
  simp only [stagesTold, told, List.reverse_cons, List.filter_append]

theorem stagesTold_eq {run : Run} {stages : List Report}
    (reports : run.reports.filter Report.isOfStage = stages) :
    run.stagesTold = stages.reverse := by
  rw [stagesTold, List.filter_reverse, reports]

/-- A run that has written nothing: the files are those of the disk, the canvas has not been saved, and
these stages have been reported, the last report first. -/
structure Before (disk : Disk) (typecase : Typecase Float) (stages : List Report) (run : Run) : Prop where
  disk : run.disk = disk
  typecase : run.typecase = typecase
  calls : run.calls.countP CanvasCall.isSave = 0
  reports : run.reports.filter Report.isOfStage = stages

section
variable {disk : Disk} {typecase : Typecase Float} {stages : List Report} {run : Run}

theorem Before.told (before : run.Before disk typecase stages) (report : Report) :
    (run.told report).Before disk typecase ([report].filter Report.isOfStage ++ stages) where
  disk := before.disk
  typecase := before.typecase
  calls := before.calls
  reports := by rw [← before.reports, ← List.filter_append]; rfl

/-- What is left of a run that has failed. -/
theorem Before.failed (before : run.Before disk typecase stages) {stage : Stage} {failure : Failure}
    (told : stages.reverse = stageReports (some (stage, failure))) :
    run.stagesTold = stageReports (some (stage, failure)) ∧ run.calls.countP CanvasCall.isSave = 0 ∧
      run.disk = disk :=
  ⟨(stagesTold_eq before.reports).trans told, before.calls, before.disk⟩

theorem during_outcome (stage : Stage) (act : Act Run β) (run : Run) :
    (during stage act).outcome run =
      match act.outcome (run.told (.stageStarted stage)) with
      | (.ok x, after) => (.ok x, after)
      | (.error failure, after) => (.error failure, after.told (.stageFailed stage failure)) := by
  unfold during
  have begun : (report (.stageStarted stage)).outcome run = (.ok (), run.told (.stageStarted stage)) := rfl
  rw [Act.outcome_bind_ok begun, Act.outcome_tryCatch]
  cases act.outcome (run.told (.stageStarted stage)) with
  | mk result after => cases result <;> rfl

/-- A stage in which nothing is written is reported once, and once more if it fails. -/
theorem Before.during {results : Except Failure β → Prop} {act : Act Run β}
    (before : run.Before disk typecase stages) (stage : Stage)
    (works : ∀ run, run.Before disk typecase (.stageStarted stage :: stages) →
      ∃ result after, act.outcome run = (result, after) ∧ results result ∧
        after.Before disk typecase (.stageStarted stage :: stages)) :
    ∃ result after, (during stage act).outcome run = (result, after) ∧ results result ∧
      after.Before disk typecase (match result with
        | .ok _ => .stageStarted stage :: stages
        | .error failure => .stageFailed stage failure :: .stageStarted stage :: stages) := by
  obtain ⟨result, after, worked, holds, kept⟩ := works _ (before.told (.stageStarted stage))
  rw [during_outcome, worked]
  cases result with
  | ok x => exact ⟨_, _, rfl, holds, kept⟩
  | error failure => exact ⟨_, _, rfl, holds, kept.told (.stageFailed stage failure)⟩

theorem readData_before (file : Path) (before : run.Before disk typecase stages) :
    ∃ result after, (readData file).outcome run = (result, after) ∧ result = DataFile.load disk file ∧
      after.Before disk typecase stages := by
  unfold readData
  rw [Act.outcome_get_bind, before.disk]
  cases DataFile.load disk file with
  | error failure => exact ⟨_, _, rfl, rfl, before⟩
  | ok record => exact ⟨_, _, rfl, rfl, before.told (.dataLoaded file)⟩

theorem readScript_before (file : Path) (before : run.Before disk typecase stages) :
    ∃ result after, (readScript file).outcome run = (result, after) ∧ result = Script.load disk file ∧
      after.Before disk typecase stages := by
  unfold readScript
  rw [Act.outcome_get_bind, before.disk]
  cases found : Script.fileText disk file with
  | error failure => exact ⟨_, _, rfl, by rw [Script.load, found]; rfl, before⟩
  | ok text =>
    have reading : (report (.scriptRead file)).outcome run = (.ok (), run.told (.scriptRead file)) := rfl
    have read := before.told (.scriptRead file)
    rw [Act.ofResult_ok, pure_bind, Act.outcome_bind_ok reading, Script.load_of_fileText found]
    cases Script.read text with
    | error fault => exact ⟨_, _, rfl, rfl, read⟩
    | ok commands => exact ⟨_, _, rfl, rfl, read.told (.scriptParsed commands.length)⟩

theorem onDocument_outcome {document drawn : Document Float} {act : Act (Document Float) Unit}
    {result : Except Failure Unit}
    (ran : act.outcome { document with reports := run.reports, disk := run.disk } = (result, drawn)) :
    (onDocument document act).outcome run = (result.map fun _ => drawn,
      { run with disk := drawn.disk, calls := drawn.calls, reports := drawn.reports }) := by
  unfold onDocument
  rw [Act.outcome_get_bind, ran]
  cases result <;> rfl

/-- Everything is drawn as on a document that has reported nothing, and nothing is written. -/
theorem drawDocument_before (settings : Settings) (record : Record) (commands : List (Command Float))
    (file : Path) (before : run.Before disk typecase stages) :
    let drawn := (drawing settings record commands).outcome (settings.blankDocument file typecase disk)
    ∃ result after, (drawDocument settings record commands file).outcome run = (result, after) ∧
      (drawn.2.Unsaved disk ∧ ∃ reports, result = drawn.1.map fun _ => { drawn.2 with reports := reports }) ∧
      after.Before disk typecase stages := by
  intro drawn
  have ignores : Document.IgnoresReports disk stages (drawing settings record commands) :=
    .bind (.register _) fun _ => .render _ commands
  have blank : (settings.blankDocument file typecase disk).Unsaved disk := ⟨rfl, rfl⟩
  obtain ⟨unsaved, more, ran, told⟩ := ignores.outcome blank before.reports
  unfold drawDocument
  rw [Act.outcome_get_bind, before.typecase, before.disk]
  dsimp only
  refine ⟨_, _, onDocument_outcome (by rw [before.disk]; exact ran), ⟨unsaved, more, rfl⟩, ?_⟩
  exact ⟨unsaved.disk, before.typecase, unsaved.calls, told⟩

/-- A document that has been drawn without being saved is saved, whatever it has reported. -/
theorem saveDocument_before {document : Document Float} (unsaved : document.Unsaved disk)
    (reports : List Report) (before : run.Before disk typecase stages) :
    ∃ after, (saveDocument { document with reports := reports }).outcome run = (document.saving, after) ∧
      after.calls.countP CanvasCall.isSave = 1 ∧ after.reports.filter Report.isOfStage = stages := by
  obtain ⟨saved, ran, file, calls, -, told⟩ := Document.save_outcome { document with reports := run.reports }
  have once : saved.calls.countP CanvasCall.isSave = 1 := by
    rw [calls, List.countP_cons_of_pos rfl, unsaved.calls]
  have saves : (do let _ ← Document.save : Act (Document Float) Unit).outcome
      { document with reports := run.reports, disk := run.disk } =
        (document.saving.map fun _ => (), saved) := by
    rw [before.disk, ← unsaved.disk, Act.outcome_bind_pure, ran]
    rfl
  have worked : (onDocument { document with reports := reports } _).outcome run = _ := onDocument_outcome saves
  unfold saveDocument
  rw [Act.outcome_bind_pure, worked]
  refine ⟨_, Prod.ext ?_ rfl, once, told.trans before.reports⟩
  rw [← Document.saving_map_file document]
  cases document.saving with
  | error failure => rfl
  | ok path => exact congrArg Except.ok file

/-- The stage of saving is reported as the others are, and saves the canvas once. -/
theorem Before.saved {document : Document Float} (before : run.Before disk typecase stages)
    (unsaved : document.Unsaved disk) (reports : List Report) :
    ∃ after, (Run.during .save (saveDocument { document with reports := reports })).outcome run =
        (document.saving, after) ∧
      after.calls.countP CanvasCall.isSave = 1 ∧
      after.stagesTold = stages.reverse ++ .stageStarted .save ::
        match document.saving with
        | .ok _ => []
        | .error failure => [.stageFailed .save failure] := by
  obtain ⟨after, saved, calls, told⟩ := saveDocument_before unsaved reports (before.told (.stageStarted .save))
  have begun : after.stagesTold = stages.reverse ++ [.stageStarted .save] :=
    (stagesTold_eq told).trans List.reverse_cons
  rw [during_outcome, saved]
  cases document.saving with
  | ok file => exact ⟨_, rfl, calls, begun⟩
  | error failure =>
    refine ⟨_, rfl, calls, ?_⟩
    rw [stagesTold_told, begun, List.append_assoc]
    rfl

/-- A run begins its stages in order, none after one that fails, and ends as that one does, with one more
report on it. The canvas is saved once if all stages before the last one have been completed; if one of
them fails, it is not, and all files are as they were. -/
theorem execute_stages (settings : Settings) (order : Order) (disk : Disk) (typecase : Typecase Float) :
    let run := (execute settings order).outcome { disk := disk, typecase := typecase }
    let saves := run.2.calls.countP CanvasCall.isSave
    match prepare settings order disk typecase with
    | .error (stage, failure) => run.1 = .error failure ∧
        run.2.stagesTold = stageReports (some (stage, failure)) ∧ saves = 0 ∧ run.2.disk = disk
    | .ok document => saves = 1 ∧
        match (Document.save.outcome document).1 with
        | .error failure => run.1 = .error failure ∧ run.2.stagesTold = stageReports (some (.save, failure))
        | .ok file => run.1 = .ok file ∧ run.2.stagesTold = stageReports none := by
  dsimp only
  -- nothing is written before the last stage, whichever of them fails
  have start : Before disk typecase [] { disk := disk, typecase := typecase } := ⟨rfl, rfl, rfl, rfl⟩
  obtain ⟨_, second, loaded, rfl, before⟩ := start.during .loadData fun _ => readData_before order.data
  cases data : DataFile.load disk order.data with
  | error failure =>
    rw [data] at loaded before
    rw [execute, Act.outcome_bind_error loaded, prepare, data]
    exact ⟨rfl, before.failed rfl⟩
  | ok record =>
    rw [data] at loaded before
    obtain ⟨_, third, parsed, rfl, before⟩ := before.during .parseStyle fun _ => readScript_before order.script
    rw [execute, Act.outcome_bind_ok loaded]
    cases script : Script.load disk order.script with
    | error failure =>
      rw [script] at parsed before
      rw [Act.outcome_bind_error parsed, prepare, data, script]
      exact ⟨rfl, before.failed rfl⟩
    | ok commands =>
      rw [script] at parsed before
      rw [Act.outcome_bind_ok parsed]
      obtain ⟨_, last, rendered, ⟨unsaved, reports, rfl⟩, before⟩ := before.during .render fun _ =>
        drawDocument_before settings record commands order.output
      cases ran : (drawing settings record commands).outcome
          (settings.blankDocument order.output typecase disk) with
      | mk result document =>
        rw [ran] at rendered before unsaved
        cases result with
        | error failure =>
          rw [Act.outcome_bind_error rendered, prepare_eq data script, ran]
          exact ⟨rfl, before.failed rfl⟩
        | ok done =>
          rw [Act.outcome_bind_ok rendered, prepare_eq data script, ran]
          -- the prepared document and the one of the run differ in their reports, which saving ignores
          obtain ⟨_, concluded, _⟩ := Document.save_outcome document
          obtain ⟨after, saved, calls, told⟩ := before.saved unsaved reports
          dsimp only [Except.map, Except.mapError]
          rw [Act.outcome_bind, concluded, saved]
          cases result : document.saving with
          | error failure =>
            rw [result] at told
            exact ⟨calls, rfl, told⟩
          | ok file =>
            rw [result] at told
            have ended := stagesTold_told after (.finished file)
            rw [told] at ended
            exact ⟨calls, rfl, ended⟩

end

end Run

end Rirekisho
