import Rirekisho.CommandLine.Check
import Rirekisho.CommandLine.Make
import Rirekisho.Proofs.Run
import Rirekisho.Proofs.Script.Polyline
import Rirekisho.Proofs.Script.Reading

namespace Rirekisho

namespace Script

section
variable {fields : List (List Char)} {last : String → Option (List Char)} {e : FieldFault}

theorem Flawed.isScript {specs : List FieldSpec} (flawed : Flawed specs fields e) :
    e.fault.family.isScript = true := by
  obtain ⟨_, _, _, _, _, _, ⟨_, fault⟩ | ⟨_, _, _, _, fault⟩⟩ := flawed
  · rw [fault]
    rfl
  · rw [fault]
    rfl

theorem Misgiven.isScript {specs : List OptionSpec} (misgiven : Misgiven specs last e) :
    e.fault.family.isScript = true := by
  obtain ⟨_, _, _, _, _, _, _, _, _, rfl⟩ := misgiven
  rfl

theorem PolylineFlaw.isScript (flaw : PolylineFlaw fields last e) : e.fault.family.isScript = true := by
  cases flaw with
  | count flawed => exact flawed.isScript
  | unmeasured _ _ unmeasured =>
    obtain ⟨_, _, _, _, _, rfl⟩ := unmeasured
    rfl
  | option _ _ _ _ misgiven => exact misgiven.isScript
  | _ => rfl

end

/-- Whatever is wrong with the fields of a command is a fault of the script. -/
theorem readDirective_isScript {keyword : Keyword} {fields : Fields} {e : FieldFault}
    (unread : readDirective keyword fields = .error e) : e.fault.family.isScript = true := by
  by_cases polyline : keyword = .polyline
  · subst polyline
    have judged := readPolyline_judged fields
    rw [show readPolyline fields = .error e from unread] at judged
    exact PolylineFlaw.isScript judged
  · have judged := readDirective_judged polyline fields
    rw [unread] at judged
    rcases judged with flawed | ⟨_, misgiven⟩
    · exact flawed.isScript
    · exact misgiven.isScript

theorem readLine_isScript {number : Int} {line : List Char} {fault : Located Fault}
    (unread : readLine number line = .error fault) : fault.cause.family.isScript = true := by
  unfold readLine at unread
  dsimp only at unread
  split at unread
  · cases unread
  · split at unread
    · cases unread
      rfl
    · split at unread
      next failed =>
        cases unread
        exact readDirective_isScript failed
      next => cases unread

theorem read_isScript {script : String} {fault : Located Fault} (unread : read script = .error fault) :
    fault.cause.family.isScript = true := by
  obtain ⟨_, _, _, _, _, _, failed⟩ := readLines_error unread
  exact readLine_isScript failed

variable {disk : Disk} {path : Path}

/-- What is told of the file of a script that has no commands: it cannot be read, or one of its lines is bad. -/
inductive Told (disk : Disk) (path : Path) : Located Fault → Prop
  | unreadable {reason : SystemFault} : disk.read path = .error reason → reason ≠ .nullInName →
      Told disk path ⟨.unreadableScript path reason, none, none, none⟩
  | line {content : Content} {text : String} {fault : Located Fault} : disk.read path = .ok content →
      content.text? = some text → read (dropMark text) = .error fault → Told disk path fault

/-- What is not told of the file of a script: its path has a null character, or its bytes are no text. -/
inductive Escapes (disk : Disk) (path : Path) : Failure → Prop
  | nullInName : disk.read path = .error .nullInName → Escapes disk path (.system .nullInName path)
  | undecodable {content : Content} : disk.read path = .ok content → content.text? = none →
      Escapes disk path .undecodable

/-- What is told is a fault of the script, if its file can be read, and else one of the file. -/
theorem Told.family {fault : Located Fault} (told : Told disk path fault) :
    if (disk.read path).isOk then fault.cause.family.isScript = true else fault.cause.family = .resource := by
  cases told with
  | unreadable read =>
    rw [read]
    rfl
  | line read _ failed =>
    rw [read]
    exact read_isScript failed

theorem Escapes.not_fault {failure : Failure} (escapes : Escapes disk path failure) (fault : Located Fault) :
    failure ≠ .fault fault := by
  rintro rfl
  cases escapes

end Script

namespace Run

end Run

namespace CommandLine

end CommandLine

namespace Script

end Script

end Rirekisho
