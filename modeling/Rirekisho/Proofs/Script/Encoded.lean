import Rirekisho.Proofs.Storage.TextFile
import Rirekisho.Script.Reader

namespace Rirekisho.Script

/-- Scripts with the same lines are the same. -/
theorem read_congr {script other : String} (same : Text.lines script.toList = Text.lines other.toList) :
    read script = read other := by
  rw [read, read, same]

theorem fileText_encoded {text : String} {marked : Bool} (plain : marked = true ∨ text.toList.head? ≠ some '\ufeff')
    {disk : Disk} {path : Path} (file : disk.read path = .ok (.bytes (encoded marked text))) :
    fileText disk path = .ok (String.ofList (Text.unifyNewlines text.toList)) := by
  obtain ⟨whole, decoded, dropped⟩ := Option.map_eq_some_iff.mp (text?_encoded plain)
  unfold fileText
  rw [file]
  dsimp only
  rw [decoded, ← dropped]

/-- Commands are loaded from a file that holds a text just as they are read from the text, with the same numbers, or
else the same fault comes up. Only a text that begins with a mark has to stand behind another one. -/
theorem load_encoded {text : String} {marked : Bool} (plain : marked = true ∨ text.toList.head? ≠ some '\ufeff')
    {disk : Disk} {path : Path} (file : disk.read path = .ok (.bytes (encoded marked text))) :
    load disk path = (read text).mapError .fault := by
  have same : read (String.ofList (Text.unifyNewlines text.toList)) = read text :=
    read_congr (by rw [String.toList_ofList, Text.lines_unifyNewlines])
  rw [load, fileText_encoded plain file]
  dsimp only [bind, Except.bind]
  rw [same]
  cases read text <;> rfl

/-- Behind a mark, lines that end in four ways; the fifth one has a field too few. -/
theorem load_encoded_mixed :
    let text := "new_page\r\n# next\rnew_page\u2028\nline,0,0,5"
    let path : Path := ⟨.here, ["style.txt"]⟩
    let disk : Disk := ⟨[], [(["style.txt"], .file (.bytes (encoded true text)))], []⟩
    let e : Located Fault := ⟨.missingField, some 5, some "line", some "y2"⟩
    disk.read path = .ok (.bytes (encoded true text)) ∧ read text = .error e ∧
      load disk path = .error (.fault e) := by
  intro text path disk e
  have file : disk.read path = .ok (.bytes (encoded true text)) := rfl
  have missing : read text = .error e := by
    unfold text
    rfl
  have loaded := load_encoded (Or.inl rfl) file
  rw [missing] at loaded
  exact ⟨file, missing, loaded⟩

end Rirekisho.Script
