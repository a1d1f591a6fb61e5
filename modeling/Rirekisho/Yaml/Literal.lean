import Rirekisho.Fault
import Rirekisho.Numeral.Literal
import Rirekisho.Text.Case
import Rirekisho.Value.Basic
import Rirekisho.Yaml.Cursor

namespace Rirekisho.Yaml

/-- The word without a line feed at its end, which is no part of its form. -/
def withoutLineEnd (word : List Char) : List Char :=
  if word.getLast? = some '\n' then word.dropLast else word

/-- A decimal digit. -/
def isDecimal (c : Char) : Bool := '0' ≤ c && c ≤ '9'

/-- A digit of a number or an underscore between them. -/
def isGrouped (digit : Char → Bool) (c : Char) : Bool := c == '_' || digit c

/-- Digits and underscores, the first of them a digit. -/
def isNumberRun : List Char → Bool
  | [] => false
  | c :: rest => isDecimal c && rest.all (isGrouped isDecimal)

/-- A number below sixty, with one digit or two. -/
def isSixtieth : List Char → Bool
  | [d] => isDecimal d
  | [t, d] => '0' ≤ t && t ≤ '5' && isDecimal d
  | _ => false

/-- The word has the form of an integer: binary, octal, decimal, hexadecimal or in sixtieths. -/
def isInteger (word : List Char) : Bool :=
  match (Numeral.takeSign word).2 with
  | '0' :: 'b' :: rest => !rest.isEmpty && rest.all (isGrouped fun c => c == '0' || c == '1')
  | '0' :: 'x' :: rest =>
    !rest.isEmpty && rest.all (isGrouped fun c =>
      let c := Numeral.lowerAscii c
      isDecimal c || ('a' ≤ c && c ≤ 'f'))
  | '0' :: rest => rest.all (isGrouped fun c => '0' ≤ c && c ≤ '7')
  | unsigned =>
    match Text.split ':' unsigned with
    | whole :: sixtieths => isNumberRun whole && sixtieths.all isSixtieth
    | [] => false

/-- The word before an exponent, which has a sign and digits. A word without the letter for it stays
as it is. -/
def beforeExponent? (word : List Char) : Option (List Char) :=
  let isLetter (c : Char) := c == 'e' || c == 'E'
  match word.dropWhile (!isLetter ·) with
  | [] => some word
  | _ :: sign :: digits =>
    if (sign == '+' || sign == '-') && !digits.isEmpty && digits.all isDecimal then
      some (word.takeWhile (!isLetter ·))
    else none
  | _ => none

/-- Digits with a point after the first of them or later, and an exponent or none. -/
def isPointed (unsigned : List Char) : Bool :=
  match (beforeExponent? unsigned).map (Text.split '.') with
  | some [whole, part] => isNumberRun whole && part.all (isGrouped isDecimal)
  | _ => false

/-- Digits after a point, and an exponent or none. -/
def isFraction (word : List Char) : Bool :=
  match (beforeExponent? word).map (Text.split '.') with
  | some [[], part] => isNumberRun part
  | _ => false

/-- A number in sixtieths with a point. -/
def isPointedSixtieths (unsigned : List Char) : Bool :=
  match Text.split '.' unsigned with
  | [whole, part] =>
    part.all (isGrouped isDecimal) &&
      match Text.split ':' whole with
      | first :: more => isNumberRun first && !more.isEmpty && more.all isSixtieth
      | [] => false
  | _ => false

/-- The word has the form of a number with a point. -/
def isFloat (word : List Char) : Bool :=
  let unsigned := (Numeral.takeSign word).2
  isPointed unsigned || isFraction word || isPointedSixtieths unsigned ||
    [".inf", ".Inf", ".INF"].contains (String.ofList unsigned) ||
    [".nan", ".NaN", ".NAN"].contains (String.ofList word)

/-- The words for truth values. -/
def truthWords : List String :=
  ["yes", "Yes", "YES", "no", "No", "NO", "true", "True", "TRUE", "false", "False", "FALSE",
    "on", "On", "ON", "off", "Off", "OFF"]

/-- The words for nothing. -/
def nullWords : List String := ["~", "null", "Null", "NULL", ""]

/-- The value of a digit, or of a letter that counts as one. -/
def digitValue? (c : Char) : Option Nat :=
  let c := Numeral.lowerAscii c
  if 'a' ≤ c ∧ c ≤ 'z' then some (c.toNat - 'a'.toNat + 10) else Text.digitValue? c

/-- The number with the given digits in a base. Powers of two may have any number of them. -/
def natInBase? (base : Nat) (digits : List Char) : Option Nat :=
  if digits.isEmpty then none
  else digits.foldlM (fun n c => (digitValue? c).bind fun d =>
    if d < base then some (base * n + d) else none) 0

/-- An integer in a base that is a power of two, after a mark for the base or without. -/
def inBase (mark : Char) (base : Nat) (text : List Char) : Except Failure Int :=
  let (negative, unsigned) := Numeral.takeSign (Text.trim text)
  let digits := match unsigned with
    | '0' :: m :: rest => if Numeral.lowerAscii m = mark then rest else unsigned
    | _ => unsigned
  match natInBase? base digits with
  | some n => .ok (if negative then -(n : Int) else n)
  | none => .error .badLiteral

/-- A decimal integer. -/
def decimalInteger (text : List Char) : Except Failure Int :=
  match Numeral.integer? Text.digitValue? (Text.trim text) with
  | some n => .ok n
  | none => .error .badLiteral

/-- Numbers joined by colons, each worth sixty of the next. -/
def sixtieths (parts : List Int) : Int := parts.foldl (fun n part => 60 * n + part) 0

/-- The integer that a text without underscores and sign stands for. -/
def unsignedInteger (text : List Char) : Except Failure Int :=
  match text with
  | [] => .error .emptyLiteral
  | ['0'] => .ok 0
  | '0' :: 'b' :: rest => inBase 'b' 2 rest
  | '0' :: 'x' :: rest => inBase 'x' 16 rest
  | '0' :: _ => inBase 'o' 8 text
  | _ =>
    if text.contains ':' then do
      return sixtieths (← (Text.split ':' text).mapM decimalInteger)
    else decimalInteger text

/-- The integer that a text stands for. -/
def integerOf (text : List Char) : Except Failure Int := do
  let text := text.filter (· != '_')
  if text.isEmpty then throw .emptyLiteral
  let (negative, unsigned) := Numeral.takeSign text
  let n ← unsignedInteger unsigned
  return if negative then -n else n

/-- A decimal number. -/
def decimalNumber (text : List Char) : Except Failure Float :=
  match Numeral.float? Text.digitValue? (Text.trim text) with
  | some x => .ok x
  | none => .error (.noNumber (String.ofList text))

/-- Numbers joined by colons, the last one first, each worth sixty of the one before. -/
def sixtiethsOfFloat : Nat → Float → List Float → Except Failure Float
  | _, sum, [] => .ok sum
  | base, sum, part :: rest =>
    let unit := Float.ofScientific base false 0
    if unit.isInf then .error .overflow else sixtiethsOfFloat (60 * base) (sum + part * unit) rest

/-- The number that a text stands for. -/
def numberOf (text : List Char) : Except Failure Float := do
  let text := Text.lower (text.filter (· != '_'))
  if text.isEmpty then throw .emptyLiteral
  let (negative, unsigned) := Numeral.takeSign text
  let word := String.ofList unsigned
  if word = ".nan" then return 0.0 / 0.0
  let x ←
    if word = ".inf" then pure (1.0 / 0.0)
    else if unsigned.contains ':' then do
      let parts ← (Text.split ':' unsigned).mapM decimalNumber
      sixtiethsOfFloat 1 0.0 parts.reverse
    else decimalNumber unsigned
  return (if negative then -1.0 else 1.0) * x

/-- The truth value that a text stands for. -/
def truthOf (text : List Char) : Except Failure Bool :=
  let word := String.ofList (Text.lower text)
  if word ∈ ["yes", "true", "on"] then .ok true
  else if word ∈ ["no", "false", "off"] then .ok false
  else .error .unknownWord

/-- A difference from the time of the zero meridian. -/
inductive Zone where
  | unknown
  | zero
  | offset (negative : Bool) (hours minutes : Nat)
  deriving Repr, DecidableEq

/-- A time of a day. -/
structure Clock where
  hour : Nat
  minute : Nat
  second : Nat
  fraction : List Char
  zone : Zone
  deriving Repr, DecidableEq

/-- A day, and perhaps a time of it, as written. -/
structure Moment where
  year : Nat
  month : Nat
  day : Nat
  clock : Option Clock
  deriving Repr, DecidableEq

/-- A number of so many digits at least and at most, and what follows. -/
def takeNumber? (least most : Nat) (cs : List Char) : Option (Nat × List Char) :=
  let digits := cs.takeWhile isDecimal
  if least ≤ digits.length ∧ digits.length ≤ most then
    some (Numeral.ofDigits (digits.filterMap Numeral.asciiDigit?), cs.drop digits.length)
  else none

/-- What follows a character. -/
def after? (c : Char) : List Char → Option (List Char)
  | x :: rest => if x = c then some rest else none
  | [] => none

/-- The zone at the end of a time. -/
def zone? (cs : List Char) : Option Zone :=
  match cs, cs.dropWhile isInline with
  | [], _ => some .unknown
  | _, ['Z'] => some .zero
  | _, sign :: rest =>
    if sign = '+' ∨ sign = '-' then do
      let (hours, rest) ← takeNumber? 1 2 rest
      match rest with
      | [] => some (.offset (sign == '-') hours 0)
      | _ =>
        let (minutes, rest) ← takeNumber? 2 2 (← after? ':' rest)
        if rest.isEmpty then some (.offset (sign == '-') hours minutes) else none
    else none
  | _, [] => none

/-- A time of a day. -/
def clock? (cs : List Char) : Option Clock := do
  let (hour, rest) ← takeNumber? 1 2 cs
  let (minute, rest) ← takeNumber? 2 2 (← after? ':' rest)
  let (second, rest) ← takeNumber? 2 2 (← after? ':' rest)
  let (fraction, rest) := match rest with
    | '.' :: rest => (rest.takeWhile isDecimal, rest.dropWhile isDecimal)
    | _ => ([], rest)
  return ⟨hour, minute, second, fraction, ← zone? rest⟩

/-- A day, and perhaps a time after the letter T or blanks. -/
def moment? (cs : List Char) : Option Moment := do
  let (year, rest) ← takeNumber? 4 4 cs
  let (month, rest) ← takeNumber? 1 2 (← after? '-' rest)
  let (day, rest) ← takeNumber? 1 2 (← after? '-' rest)
  match rest with
  | [] => return ⟨year, month, day, none⟩
  | x :: more =>
    if x = 'T' ∨ x = 't' then return ⟨year, month, day, some (← clock? more)⟩
    else if isInline x then return ⟨year, month, day, some (← clock? (more.dropWhile isInline))⟩
    else none

/-- The word has the form of a time. A day alone has two digits for month and day. -/
def isTime (word : List Char) : Bool :=
  match moment? word with
  | some m => m.clock.isSome || word.length == 10
  | none => false

/-- The year has a twenty-ninth of February. -/
def isLeap (year : Nat) : Bool := year % 4 == 0 && (year % 100 != 0 || year % 400 == 0)

/-- The number of days of a month. -/
def monthLength (year month : Nat) : Nat :=
  if month = 2 then (if isLeap year then 29 else 28)
  else if month ∈ [4, 6, 9, 11] then 30 else 31

/-- The day is one of the calendar. -/
def isDay (year month day : Nat) : Bool :=
  1 ≤ year && 1 ≤ month && month ≤ 12 && 1 ≤ day && day ≤ monthLength year month

/-- The seconds of a zone, counted eastwards, if it is less than a day away. -/
def Zone.seconds? : Zone → Option Int
  | .unknown | .zero => some 0
  | .offset negative hours minutes =>
    let n : Int := 3600 * hours + 60 * minutes
    if n < 86400 then some (if negative then -n else n) else none

/-- A number of microseconds from the digits of a fraction: the first six count. -/
def microseconds (fraction : List Char) : Nat :=
  Numeral.ofDigits (((fraction ++ List.replicate 6 '0').take 6).filterMap Numeral.asciiDigit?)

/-- Numbers between commas. -/
def numbersText (ns : List Nat) : String :=
  ", ".intercalate (ns.map fun (n : Nat) => Numeral.integerText (n : Int))

/-- The text for a zone at the end of the text for a time. -/
def Zone.text (zone : Zone) (seconds : Int) : String :=
  match zone with
  | .unknown => ""
  | _ =>
    if seconds = 0 then ", tzinfo=datetime.timezone.utc"
    else
      let days := if seconds < 0 then "days=-1, " else ""
      ", tzinfo=datetime.timezone(datetime.timedelta(" ++ days ++ "seconds=" ++
        Numeral.integerText (seconds % 86400) ++ "))"

/-- The text for a time, the same for the same time, if it is one of the calendar. -/
def Moment.text? (m : Moment) : Option String :=
  if !isDay m.year m.month m.day then none
  else
    match m.clock with
    | none => some ("datetime.date(" ++ numbersText [m.year, m.month, m.day] ++ ")")
    | some c => do
      let seconds ← c.zone.seconds?
      if 24 ≤ c.hour ∨ 60 ≤ c.minute ∨ 60 ≤ c.second then none
      else
        let micro := microseconds c.fraction
        let small := if micro ≠ 0 then [c.second, micro] else if c.second ≠ 0 then [c.second] else []
        some ("datetime.datetime(" ++
          numbersText ([m.year, m.month, m.day, c.hour, c.minute] ++ small) ++
          c.zone.text seconds ++ ")")

/-- The time that a text stands for. -/
def timeOf (text : List Char) : Except Failure Value :=
  match moment? (withoutLineEnd text) with
  | none => .error .notMapping
  | some m =>
    match m.text? with
    | some s => .ok (.time s)
    | none => .error .badLiteral

/-- The six bits that a character stands for. -/
def sixBits? (c : Char) : Option Nat :=
  if 'A' ≤ c ∧ c ≤ 'Z' then some (c.toNat - 'A'.toNat)
  else if 'a' ≤ c ∧ c ≤ 'z' then some (c.toNat - 'a'.toNat + 26)
  else if isDecimal c then some (c.toNat - '0'.toNat + 52)
  else if c = '+' then some 62
  else if c = '/' then some 63
  else none

/-- The bytes of binary data. Characters that stand for nothing are passed over, and after the
padding nothing counts. The first two arguments tell the place in a group of four and the padding
seen so far, the third the bits that are left over. -/
def binaryBytes : Nat → Nat → Nat → List Char → Option (List UInt8)
  | place, _, _, [] => if place = 0 then some [] else none
  | place, padding, left, c :: rest =>
    if c = '=' then
      if 2 ≤ place ∧ 4 ≤ place + padding + 1 then some []
      else binaryBytes place (if 2 ≤ place then padding + 1 else padding) left rest
    else
      match sixBits? c with
      | none => binaryBytes place padding left rest
      | some bits =>
        match place with
        | 0 => binaryBytes 1 0 bits rest
        | 1 => (binaryBytes 2 0 (bits % 16) rest).map ((4 * left + bits / 16).toUInt8 :: ·)
        | 2 => (binaryBytes 3 0 (bits % 4) rest).map ((16 * left + bits / 4).toUInt8 :: ·)
        | _ => (binaryBytes 0 0 0 rest).map ((64 * left + bits).toUInt8 :: ·)

example : isInteger "010".toList ∧ isInteger "1:30".toList ∧ !isInteger "08".toList := by decide
example : isFloat "1.5e+3".toList ∧ isFloat ".5".toList ∧ !isFloat "1e3".toList := by decide
example : isTime "2024-04-01".toList ∧ !isTime "2024-4-1".toList := by decide

end Rirekisho.Yaml
