import Mathlib.Data.List.Forall2
import Rirekisho.Script.Reader

namespace Rirekisho

/-- What a field or an option says. -/
inductive Datum where
  | length (x : Float)
  | count (n : Nat)
  | text (s : String)
  | number (x : Float)
  | style (style : LineStyle)
  | truth (b : Bool)

namespace Script

/-- What a field of a kind says, or what it should have been. -/
def FieldKind.judge : FieldKind → List Char → Except Expectation Datum
  | .length, raw =>
    match length? raw with
    | some x => .ok (.length x)
    | none => .error .length
  | .count, raw =>
    match Numeral.integer? Text.digitValue? raw with
    | some (.ofNat n) => .ok (.count n)
    | some (.negSucc _) => .error .count
    | none => .error .integer
  | .text, raw => .ok (.text (String.ofList raw))

/-- What an option holds. -/
inductive OptionKind where
  | face
  | number
  | style
  | truth

/-- What an option of a kind says, or what it should have been. -/
def OptionKind.judge : OptionKind → List Char → Except Expectation Datum
  | .face, raw => if raw = [] then .error .face else .ok (.text (String.ofList raw))
  | .number, raw =>
    match Numeral.float? Text.digitValue? raw with
    | some x => .ok (.number x)
    | none => .error .number
  | .style, raw =>
    match LineStyle.ofName? (String.ofList (raw.map Numeral.lowerAscii)) with
    | some found => .ok (.style found)
    | none => .error .lineStyle
  | .truth, raw =>
    let word := String.ofList (raw.map Numeral.lowerAscii)
    if word ∈ ["true", "yes", "1"] then .ok (.truth true)
    else if word ∈ ["false", "no", "0"] then .ok (.truth false)
    else .error .truth

/-- An option that a command knows. -/
structure OptionSpec where
  name : String
  kind : OptionKind

/-- The declared fields are there, each as its kind has it: these are their values under their names. -/
def Filled (specs : List FieldSpec) (fields : List (List Char)) (data : List (String × Datum)) : Prop :=
  data.length = specs.length ∧ ∀ (i : Nat) (spec : FieldSpec), specs[i]? = some spec →
    ∃ raw value, fields[i]? = some raw ∧ spec.kind.judge raw = .ok value ∧
      data[i]? = some (spec.name, value)

/-- The option is not given, or it is as its kind has it: this is what it says under its name. -/
def OptionSpec.Says (last : String → Option (List Char)) (spec : OptionSpec)
    (entry : String × Option Datum) : Prop :=
  entry.1 = spec.name ∧
    match last spec.name with
    | none => entry.2 = none
    | some raw => ∃ value, spec.kind.judge raw = .ok value ∧ entry.2 = some value

/-- All options that are given are as their kinds have them: this is what they say under their names. -/
def Chosen (specs : List OptionSpec) (last : String → Option (List Char))
    (data : List (String × Option Datum)) : Prop :=
  List.Forall₂ (OptionSpec.Says last) specs data

/-- The value of a field as a datum. -/
def FieldKind.datum : (kind : FieldKind) → kind.Value → Datum
  | .length, x => .length x
  | .count, n => .count n
  | .text, s => .text s

/-- The values of a row under their names. -/
def Row.data : (row : List FieldSpec) → Row row → List (String × Datum)
  | [], _ => []
  | spec :: rest, (value, values) => (spec.name, spec.kind.datum value) :: Row.data rest values

/-- The reader has the value that is judged to be there, or tells what should have been there. -/
def Judges {β : Type} (judge : List Char → Except Expectation Datum) (datum : β → Datum)
    (read : List Char → Except Fault β) : Prop :=
  ∀ raw, match read raw with
    | .ok x => judge raw = .ok (datum x)
    | .error fault => ∃ expected, judge raw = .error expected ∧ fault = .malformed expected (String.ofList raw)

theorem FieldKind.judges (kind : FieldKind) : Judges kind.judge kind.datum kind.read := by
  intro raw
  cases kind with
  | length =>
    simp only [FieldKind.read, readLength, FieldKind.judge]
    cases length? raw with
    | none => exact ⟨.length, rfl, rfl⟩
    | some x => rfl
  | count =>
    simp only [FieldKind.read, readCount, FieldKind.judge]
    cases Numeral.integer? Text.digitValue? raw with
    | none => exact ⟨.integer, rfl, rfl⟩
    | some n =>
      cases n with
      | ofNat n => rfl
      | negSucc n =>
        dsimp only
        rw [if_pos (Int.negSucc_lt_zero n)]
        exact ⟨.count, rfl, rfl⟩
  | text => rfl

section
variable {spec : FieldSpec} {specs : List FieldSpec} {fields more : List (List Char)}
  {data : List (String × Datum)} {raw : List Char}

theorem Filled.nil (fields : List (List Char)) : Filled [] fields [] := ⟨rfl, nofun⟩

theorem Filled.cons {value : Datum} (judged : spec.kind.judge raw = .ok value)
    (rest : Filled specs more data) :
    Filled (spec :: specs) (raw :: more) ((spec.name, value) :: data) := by
  obtain ⟨length, each⟩ := rest
  refine ⟨by simp only [List.length_cons, length], fun i other there => ?_⟩
  cases i with
  | zero =>
    cases there
    exact ⟨raw, value, rfl, judged, rfl⟩
  | succ i => exact each i other there

/-- The fault of the first declared field that is missing or malformed. -/
def Flawed (specs : List FieldSpec) (fields : List (List Char)) (e : FieldFault) : Prop :=
  ∃ i spec before, specs[i]? = some spec ∧ Filled (specs.take i) fields before ∧ e.field = spec.name ∧
    (fields.length ≤ i ∧ e.fault = .missingField ∨
      ∃ raw expected, fields[i]? = some raw ∧ spec.kind.judge raw = .error expected ∧
        e.fault = .malformed expected (String.ofList raw))

/-- A row that can be filled has no flaw. -/
theorem Filled.not_flawed (filled : Filled specs fields data) (e : FieldFault) : ¬ Flawed specs fields e := by
  rintro ⟨i, spec, -, there, -, -, flaw⟩
  obtain ⟨raw, value, here, judged, -⟩ := filled.2 i spec there
  rcases flaw with ⟨short, -⟩ | ⟨other, expected, again, malformed, -⟩
  · rw [List.getElem?_eq_none short] at here
    cases here
  · cases here.symm.trans again
    cases judged.symm.trans malformed

theorem Flawed.cons {value : Datum} {e : FieldFault} (judged : spec.kind.judge raw = .ok value)
    (rest : Flawed specs more e) : Flawed (spec :: specs) (raw :: more) e := by
  obtain ⟨i, culprit, before, there, filled, name, what⟩ := rest
  refine ⟨i + 1, culprit, (spec.name, value) :: before, there, filled.cons judged, name, ?_⟩
  rcases what with ⟨short, fault⟩ | flaw
  · exact Or.inl ⟨Nat.succ_le_succ short, fault⟩
  · exact Or.inr flaw

/-- A row is read to its end, or up to the first field that is missing or malformed. -/
theorem readRow_judged (specs : List FieldSpec) (fields : List (List Char)) :
    match readRow specs fields with
    | .ok values => Filled specs fields (Row.data specs values)
    | .error e => Flawed specs fields e := by
  induction specs generalizing fields with
  | nil => exact .nil fields
  | cons spec rest ih =>
    cases fields with
    | nil => exact ⟨0, spec, [], rfl, .nil [], rfl, Or.inl ⟨Nat.le_refl 0, rfl⟩⟩
    | cons raw more =>
      have judged := spec.kind.judges raw
      have others := ih more
      simp only [readRow]
      cases first : spec.kind.read raw with
      | error fault =>
        rw [first] at judged
        obtain ⟨expected, malformed, rfl⟩ := judged
        exact ⟨0, spec, [], rfl, .nil _, rfl, Or.inr ⟨raw, expected, rfl, malformed, rfl⟩⟩
      | ok value =>
        rw [first] at judged
        cases read : readRow rest more with
        | error e =>
          rw [read] at others
          exact others.cons judged
        | ok values =>
          rw [read] at others
          exact others.cons judged

theorem readRow_take (specs : List FieldSpec) (fields : List (List Char)) :
    readRow specs (fields.take specs.length) = readRow specs fields := by
  induction specs generalizing fields with
  | nil => rfl
  | cons spec rest ih =>
    cases fields with
    | nil => rfl
    | cons raw more => simp only [List.length_cons, List.take_succ_cons, readRow, ih]

end

section
variable {O β : Type} {last : String → Option (List Char)} {specs : List OptionSpec} {name : String}

/-- The fault of the first option that is given and malformed. -/
def Misgiven (specs : List OptionSpec) (last : String → Option (List Char)) (e : FieldFault) : Prop :=
  ∃ i spec before raw expected, specs[i]? = some spec ∧ Chosen (specs.take i) last before ∧
    last spec.name = some raw ∧ spec.kind.judge raw = .error expected ∧
    e = ⟨.malformed expected (String.ofList raw), spec.name⟩

theorem Misgiven.cons {spec : OptionSpec} {entry : String × Option Datum} {e : FieldFault}
    (said : spec.Says last entry) (rest : Misgiven specs last e) : Misgiven (spec :: specs) last e := by
  obtain ⟨i, culprit, before, raw, expected, there, chosen, given, malformed, fault⟩ := rest
  exact ⟨i + 1, culprit, entry :: before, raw, expected, there, .cons said chosen, given, malformed, fault⟩

/-- A reader of options finds them, behind some that have been found already, or is stopped by the first
malformed one. -/
def Gathers (last : String → Option (List Char)) (view : O → List (String × Option Datum))
    (found : List (String × Option Datum)) (specs : List OptionSpec) (reader : Except FieldFault O) : Prop :=
  match reader with
  | .ok options => ∃ data, view options = found ++ data ∧ Chosen specs last data
  | .error e => Misgiven specs last e

variable {view : O → List (String × Option Datum)} {found : List (String × Option Datum)}

theorem Gathers.nil {options : O} (all : view options = found) : Gathers last view found [] (.ok options) :=
  ⟨[], by rw [all, List.append_nil], .nil⟩

theorem Gathers.behind {spec : OptionSpec} {entry : String × Option Datum} {reader : Except FieldFault O}
    (said : spec.Says last entry) (rest : Gathers last view (found ++ [entry]) specs reader) :
    Gathers last view found (spec :: specs) reader := by
  cases reader with
  | error e => exact Misgiven.cons said rest
  | ok options =>
    obtain ⟨data, whole, chosen⟩ := rest
    exact ⟨entry :: data, by rw [whole, List.append_assoc]; rfl, .cons said chosen⟩

theorem Gathers.cons {fields : Fields} {spec : OptionSpec} {datum : β → Datum}
    {read : List Char → Except Fault β} (judges : Judges spec.kind.judge datum read)
    {next : Option β → Except FieldFault O}
    (rest : ∀ given, Gathers fields.last? view (found ++ [(spec.name, given.map datum)]) specs (next given)) :
    Gathers fields.last? view found (spec :: specs) (fields.option spec.name read >>= next) := by
  unfold Fields.option
  cases given : fields.last? spec.name with
  | none => exact (rest none).behind ⟨rfl, by rw [given]; rfl⟩
  | some raw =>
    have judged := judges raw
    dsimp only
    cases first : read raw with
    | error fault =>
      rw [first] at judged
      obtain ⟨expected, malformed, rfl⟩ := judged
      exact ⟨0, spec, [], raw, expected, rfl, .nil, given, malformed, rfl⟩
    | ok x =>
      rw [first] at judged
      exact (rest (some x)).behind ⟨rfl, by rw [given]; exact ⟨_, judged, rfl⟩⟩

end

theorem readFace_judges : Judges (OptionKind.judge .face) .text readFace := by
  intro raw
  simp only [readFace, OptionKind.judge]
  by_cases empty : raw = []
  · rw [if_pos empty, if_pos empty]
    exact ⟨.face, rfl, rfl⟩
  · rw [if_neg empty, if_neg empty]

theorem readNumber_judges : Judges (OptionKind.judge .number) .number readNumber := by
  intro raw
  simp only [readNumber, OptionKind.judge]
  cases Numeral.float? Text.digitValue? raw with
  | none => exact ⟨.number, rfl, rfl⟩
  | some x => rfl

theorem readLineStyle_judges : Judges (OptionKind.judge .style) .style readLineStyle := by
  intro raw
  simp only [readLineStyle, OptionKind.judge]
  cases LineStyle.ofName? _ with
  | none => exact ⟨.lineStyle, rfl, rfl⟩
  | some style => rfl

end Script

end Rirekisho
