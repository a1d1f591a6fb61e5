import Rirekisho.Text.Digit
import Rirekisho.Text.Line

namespace Rirekisho.CommandLine

/-- Why arguments lead to no work. -/
inductive Refusal where
  | help
  | misuse
  deriving Repr, DecidableEq

/-- The exit code of a command that does no work. -/
def Refusal.code : Refusal → Nat
  | .help => 0
  | .misuse => 2

/-- What an option is there for: help, or a value that is known by a key. -/
inductive Purpose (κ : Type) where
  | help
  | value (key : κ)
  deriving Repr, DecidableEq

/-- An option with its letter and its name. -/
structure Switch (κ : Type) where
  letter : Char
  name : String
  purpose : Purpose κ

/-- What a command understands: options, and a number of plain words. Help is always among them. -/
structure Usage (κ : Type) where
  switches : List (Switch κ)
  words : Nat

/-- An argument before the mark that ends the options. -/
inductive Argument (κ : Type) where
  | word (s : String)
  /-- An option, perhaps with a value after an equals sign. -/
  | call (purpose : Purpose κ) (value : Option (List Char))
  /-- An option called by its letter, with more written right after it. -/
  | joined (purpose : Purpose κ) (tail : List Char)
  /-- A call of an option that does not exist. -/
  | stranger
  deriving Repr, DecidableEq

/-- The arguments as they are understood: values and words in their order, and whether anything
cannot be understood. -/
structure Given (κ : Type) where
  values : List (κ × String) := []
  words : List String := []
  strange : Bool := false
  deriving Repr, DecidableEq

/-- A text is a negative number: digits, or digits after a point, with a dash in front. A line feed
at the end does no harm. -/
def isNegativeNumber : List Char → Bool
  | '-' :: rest =>
    let rest := if rest.getLast? = some '\n' then rest.dropLast else rest
    let fraction := (rest.dropWhile Text.isDigit).drop 1
    match rest.dropWhile Text.isDigit with
    | [] => !rest.isEmpty
    | c :: _ => c = '.' && !fraction.isEmpty && fraction.all Text.isDigit
  | _ => false

/-- The parts of a text before and after its first equals sign, if it has one. -/
def halves? (cs : List Char) : Option (List Char × List Char) :=
  match cs.dropWhile (· ≠ '=') with
  | [] => none
  | _ :: value => some (cs.takeWhile (· ≠ '='), value)

namespace Usage

variable {κ : Type}

/-- The options, the one for help first. -/
def options (usage : Usage κ) : List (Switch κ) := ⟨'h', "help", .help⟩ :: usage.switches

/-- The purpose of the option with a letter. -/
def ofLetter? (usage : Usage κ) (letter : Char) : Option (Purpose κ) :=
  (usage.options.find? (·.letter == letter)).map (·.purpose)

/-- The purpose of the option that is called by exactly this. -/
def called? (usage : Usage κ) : List Char → Option (Purpose κ)
  | ['-', letter] => usage.ofLetter? letter
  | '-' :: '-' :: name => (usage.options.find? (·.name.toList == name)).map (·.purpose)
  | _ => none

/-- The purposes of the options whose names begin so. -/
def named (usage : Usage κ) (front : List Char) : List (Purpose κ) :=
  (usage.options.filter fun o => front.isPrefixOf o.name.toList).map (·.purpose)

/-- What a text with a dash at its front calls, if it is not exactly an option. Several options at
once are an error. -/
def nearly (usage : Usage κ) : List Char → Except Refusal (Option (Argument κ))
  | '-' :: '-' :: rest =>
    let (front, value) := match halves? rest with
      | some (front, value) => (front, some value)
      | none => (rest, none)
    match usage.named front with
    | [] => .ok none
    | [purpose] => .ok (some (.call purpose value))
    | _ => .error .misuse
  | '-' :: letter :: tail => .ok ((usage.ofLetter? letter).map (.joined · tail))
  | _ => .ok none

/-- What an argument is. -/
def classify (usage : Usage κ) (s : String) : Except Refusal (Argument κ) := do
  let cs := s.toList
  if cs.head? ≠ some '-' then return .word s
  if let some purpose := usage.called? cs then return .call purpose none
  if cs = ['-'] then return .word s
  if let some (front, value) := halves? cs then
    if let some purpose := usage.called? front then return .call purpose (some value)
  match ← usage.nearly cs with
  | some argument => return argument
  | none => return if isNegativeNumber cs || cs.contains ' ' then .word s else .stranger

/-- What is written right after the letter for help can be read: as further letters, as far as they
are known, the last one perhaps with its value. -/
def readsOn (usage : Usage κ) (wordFollows : Bool) : List Char → Bool
  | [] => true
  | '-' :: _ => false
  | letter :: rest =>
    match usage.ofLetter? letter with
    | none => true
    | some .help => rest.head? != some '=' && usage.readsOn wordFollows rest
    | some (.value _) => !rest.isEmpty || wordFollows

/-- A word comes first among the arguments. -/
def wordFirst : List (Argument κ) → Bool
  | .word _ :: _ => true
  | _ => false

/-- Arguments understood one after the other. A call for help ends it, and so does an option whose
value is missing. -/
def understand (usage : Usage κ) (given : Given κ) : List (Argument κ) → Except Refusal (Given κ)
  | [] => .ok given
  | .word s :: rest => usage.understand { given with words := given.words ++ [s] } rest
  | .stranger :: rest => usage.understand { given with strange := true } rest
  | .call .help none :: _ => .error .help
  | .call .help (some _) :: _ => .error .misuse
  | .joined .help tail :: rest =>
    .error (if usage.readsOn (wordFirst rest) tail then .help else .misuse)
  | .call (.value key) (some value) :: rest | .joined (.value key) value :: rest =>
    usage.understand { given with values := given.values ++ [(key, String.ofList value)] } rest
  | .call (.value key) none :: .word s :: rest =>
    usage.understand { given with values := given.values ++ [(key, s)] } rest
  | .call (.value _) none :: _ => .error .misuse

/-- The mark after which there are only plain words. -/
def mark : String := "--"

/-- The arguments are as many words as the usage has place for. The mark has a place only where
words have one. -/
def admits (usage : Usage κ) (marked : Bool) (given : Given κ) : Bool :=
  !given.strange && given.words.length ≤ usage.words && (!marked || usage.words > 0)

/-- The arguments as the usage has them. -/
def read (usage : Usage κ) (arguments : List String) : Except Refusal (Given κ) := do
  let front ← (arguments.takeWhile (· ≠ mark)).mapM usage.classify
  let back := (arguments.dropWhile (· ≠ mark)).drop 1
  let given ← usage.understand {} front
  let given := { given with words := given.words ++ back }
  if usage.admits (arguments.contains mark) given then return given else throw .misuse

end Usage

/-- The value of an option, where it is given more than once the last one. -/
def Given.value? {κ : Type} [BEq κ] (given : Given κ) (key : κ) : Option String :=
  (given.values.reverse.find? (·.1 == key)).map (·.2)

end Rirekisho.CommandLine
