import Rirekisho.Proofs.Outcome
import Rirekisho.Storage.Disk

namespace Rirekisho.Disk

variable {disk : Disk} {file : Path}

/-- A file that can be read is there. -/
theorem holds_of_read {content : Content} (read : disk.read file = .ok content) : disk.holds file = .ok true := by
  obtain ⟨place, located, found⟩ := result_bind_eq_ok.mp read
  cases there : disk.item? place with
  | none =>
    rw [there] at found
    cases found
  | some item =>
    have led : disk.find file = .ok item := by simp only [find, located, bind, Except.bind, there]
    rw [holds, led]

theorem holds_eq_error {reason : SystemFault} (refused : disk.holds file = .error reason) :
    reason = .nameTooLong ∨ reason = .denied := by
  unfold holds at refused
  split at refused <;> cases refused
  · exact Or.inl rfl
  · exact Or.inr rfl

/-- Of a file in the working directory whose name is too long the system does not tell whether it is there. -/
theorem holds_nameTooLong (disk : Disk) (entered : disk.home ∉ disk.barred) {name : String}
    (plain : '\x00' ∉ name.toList) (long : nameLimit < name.utf8ByteSize) :
    disk.holds ⟨.here, [name]⟩ = .error .nameTooLong := by
  have clear : ([name].any fun name => name.toList.contains '\x00') = false := by simpa using plain
  have home : disk.item? disk.home = some .directory := if_pos (by simp)
  have located : disk.locate ⟨.here, [name]⟩ = .error .nameTooLong := by
    simp only [locate, clear, Bool.false_eq_true, if_false, Path.isAbsolute]
    split
    · rfl
    · simp [walk, home, entered, long]
  simp only [holds, find, located, bind, Except.bind]

/-- Nor does it tell of any file in a directory that may not be entered. -/
example : (Disk.mk [] [(["gothic.ttf"], .file .font)] [[]]).holds ⟨.here, ["gothic.ttf"]⟩ = .error .denied :=
  rfl

end Rirekisho.Disk
