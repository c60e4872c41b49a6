import WorkerAdvisor.Text.DecimalDigit
import WorkerAdvisor.Text.Lowercase
import WorkerAdvisor.Value
import WorkerAdvisor.Yaml.Base64
import WorkerAdvisor.Yaml.Fault
import WorkerAdvisor.Yaml.Tag

/-!
The values of scalars.

A scalar that has a kind because of its form can still denote nothing: a date that is not in the calendar, a
number with a mark of its base and no digits. One that has a kind because of its tag may have any text at all.
-/

set_option autoImplicit false

namespace WorkerAdvisor.Yaml.Scalar

/-! ### Integers -/

/-- The value of a character as a digit in a base. -/
def digitIn? (base : Nat) (c : Char) : Option Nat :=
  let digit := match Text.decimalDigit? c with
    | some value => some value
    | none =>
      if 'a' ≤ c ∧ c ≤ 'z' then some (c.toNat - 87)
      else if 'A' ≤ c ∧ c ≤ 'Z' then some (c.toNat - 55)
      else none
  digit.filter (· < base)

def baseMark (base : Nat) : List (List Char) :=
  if base = 2 then [['0', 'b'], ['0', 'B']]
  else if base = 8 then [['0', 'o'], ['0', 'O']]
  else if base = 16 then [['0', 'x'], ['0', 'X']]
  else []

def digitsIn? (base : Nat) (cs : List Char) : Option Nat :=
  if cs.isEmpty then none
  else cs.foldl (fun value c ↦ value.bind fun n ↦ (digitIn? base c).map (base * n + ·)) (some 0)

/-- The most digits that a number in base ten may have. -/
def decimalLimit : Nat := 4300

def naturalIn? (base : Nat) (cs : List Char) : Option Nat :=
  let digits := if (baseMark base).contains (cs.take 2) then cs.drop 2 else cs
  if base = 10 ∧ decimalLimit < digits.length then none else digitsIn? base digits

/-- The integer that a text writes in a base, perhaps with a sign and with white space around it. -/
def integerIn? (base : Nat) (cs : List Char) : Option Int :=
  match Text.trimMargin cs with
  | '-' :: rest => (naturalIn? base rest).map fun n ↦ -(n : Int)
  | '+' :: rest => (naturalIn? base rest).map fun n ↦ (n : Int)
  | rest => (naturalIn? base rest).map fun n ↦ (n : Int)

def sexagesimal (parts : List Int) : Int := parts.foldl (fun n part ↦ 60 * n + part) 0

/-- The integer that a text without underscores and without a sign in front writes. -/
def unsignedInteger (cs : List Char) : Except Fault Int :=
  let orUnreadable (number : Option Int) : Except Fault Int :=
    match number with
    | some n => .ok n
    | none => .error .unreadableNumber
  match cs with
  | [] => .error .emptyNumber
  | ['0'] => .ok 0
  | '0' :: 'b' :: digits => orUnreadable (integerIn? 2 digits)
  | '0' :: 'x' :: digits => orUnreadable (integerIn? 16 digits)
  | '0' :: _ => orUnreadable (integerIn? 8 cs)
  | _ =>
    if cs.contains ':' then orUnreadable (((Text.splitOn ':' cs).mapM (integerIn? 10)).map sexagesimal)
    else orUnreadable (integerIn? 10 cs)

/-- A text without underscores, and whether it begins with a minus sign; the sign in front is dropped. -/
def signAndRest (cs : List Char) : Except Fault (Bool × List Char) :=
  match cs.filter (· ≠ '_') with
  | [] => .error .emptyNumber
  | '-' :: rest => .ok (true, rest)
  | '+' :: rest => .ok (false, rest)
  | rest => .ok (false, rest)

def integer (content : String) : Except Fault Int := do
  let (negative, rest) ← signAndRest content.toList
  let size ← unsignedInteger rest
  return if negative then -size else size

/-! ### Real numbers -/

/-- The digits at the start of a text, with their values, and what follows them. -/
def spanDigits : List Char → List Nat × List Char
  | [] => ([], [])
  | c :: rest =>
    match Text.decimalDigit? c with
    | some digit => (digit :: (spanDigits rest).1, (spanDigits rest).2)
    | none => ([], c :: rest)

def digitsValue (digits : List Nat) : Nat := digits.foldl (fun n digit ↦ 10 * n + digit) 0

def exponent? (cs : List Char) : Option Int :=
  match cs with
  | [] => some 0
  | 'e' :: rest =>
    let (negative, rest) := match rest with
      | '-' :: rest => (true, rest)
      | '+' :: rest => (false, rest)
      | rest => (false, rest)
    match spanDigits rest with
    | ([], _) => none
    | (digits, []) => some (if negative then -(digitsValue digits : Int) else digitsValue digits)
    | _ => none
  | _ => none

/-- The largest exponent that makes a difference: a number with a larger one is infinite or zero. -/
def exponentBound : Nat := 20000

/-- `significand · 10^exponent`, rounded to a real number. -/
def scaled (significand : Nat) (exponent : Int) : Float :=
  Float.ofScientific significand (exponent < 0) (min exponent.natAbs exponentBound)

/-- The real number that a text in lower case without a sign writes. -/
def unsignedReal? (cs : List Char) : Option Float :=
  if cs = "inf".toList ∨ cs = "infinity".toList then some (1.0 / 0.0)
  else if cs = "nan".toList then some (0.0 / 0.0)
  else
    let (whole, rest) := spanDigits cs
    let (fraction, rest) := match rest with
      | '.' :: rest => spanDigits rest
      | rest => ([], rest)
    if whole.isEmpty && fraction.isEmpty then none
    else (exponent? rest).map fun exponent ↦
      scaled (digitsValue (whole ++ fraction)) (exponent - fraction.length)

/-- The real number that a text in lower case writes, perhaps with a sign and with white space around it. -/
def real? (cs : List Char) : Option Float :=
  match Text.trimMargin cs with
  | '-' :: rest => (unsignedReal? rest).map fun x ↦ -x
  | '+' :: rest => unsignedReal? rest
  | rest => unsignedReal? rest

/-- The most parts of a number in sixties whose place values are real numbers. -/
def sexagesimalLimit : Nat := 174

def real (content : String) : Except Fault Float := do
  let (negative, rest) ← signAndRest (Text.lower content).toList
  let signed (x : Float) : Float := if negative then -x else x
  let orUnreadable (number : Option Float) : Except Fault Float :=
    match number with
    | some x => .ok (signed x)
    | none => .error .unreadableNumber
  if rest = ".inf".toList then return signed (1.0 / 0.0)
  else if rest = ".nan".toList then return 0.0 / 0.0
  else if rest.contains ':' then
    match (Text.splitOn ':' rest).mapM real? with
    | none => .error .unreadableNumber
    | some parts =>
      if sexagesimalLimit < parts.length then .error .oversizedNumber
      else return signed (parts.foldl (fun x part ↦ 60.0 * x + part) 0.0)
  else orUnreadable (real? rest)

/-! ### The other kinds -/

def boolean (content : String) : Except Fault Bool :=
  let word := Text.lower content
  if ["yes", "true", "on"].contains word then .ok true
  else if ["no", "false", "off"].contains word then .ok false
  else .error .unknownTruth

def isLeapYear (year : Nat) : Bool := year % 4 == 0 && (year % 100 != 0 || year % 400 == 0)

def daysOfMonth (year month : Nat) : Nat :=
  if month = 2 then (if isLeapYear year then 29 else 28)
  else if month = 4 ∨ month = 6 ∨ month = 9 ∨ month = 11 then 30
  else 31

def numbers (cs : List Char) : List Nat :=
  let step (state : List Nat × Bool) (c : Char) : List Nat × Bool :=
    match state with
    | (number :: others, true) =>
      if c.isDigit then ((10 * number + (c.toNat - 48)) :: others, true) else (number :: others, false)
    | (found, _) => if c.isDigit then ((c.toNat - 48) :: found, true) else (found, false)
  (cs.foldl step ([], false)).1.reverse

/-- Whether a time of day is in the day, and its zone less than a day away. -/
def isTime (cs : List Char) : Bool :=
  let clock := cs.takeWhile fun c ↦ c.isDigit || c == ':'
  let afterFraction := match cs.dropWhile fun c ↦ c.isDigit || c == ':' with
    | '.' :: rest => rest.dropWhile Char.isDigit
    | rest => rest
  let zone := match numbers afterFraction with
    | [hours] => 60 * hours
    | hours :: minutes :: _ => 60 * hours + minutes
    | [] => 0
  match numbers clock with
  | [hour, minute, second] => hour < 24 && minute < 60 && second < 60 && zone < 24 * 60
  | _ => false

def timestamp (content : String) : Except Fault Value :=
  let cs := Form.dropLineFeed content.toList
  let timed := Form.matchesAll Form.dateTime cs
  if Form.matchesAll Form.looseDate cs || timed then
    let afterDate := (cs.dropWhile fun c ↦ c.isDigit || c == '-').drop 1
    let time := afterDate.dropWhile fun c ↦ c == ' ' || c == '\t'
    match numbers (cs.takeWhile fun c ↦ c.isDigit || c == '-') with
    | [year, month, day] =>
      if 1 ≤ year ∧ 1 ≤ month ∧ month ≤ 12 ∧ 1 ≤ day ∧ day ≤ daysOfMonth year month ∧ (timed → isTime time) then
        .ok (.calendar year month day)
      else .error .impossibleDate
    | _ => .error .impossibleDate
  else .error .unreadableDate

def binary (content : String) : Except Fault (List UInt8) :=
  if content.toList.all (·.toNat < 128) then
    match Base64.decode content.toList with
    | some bytes => .ok bytes
    | none => .error .malformed
  else .error .malformed

/-- The value of a scalar with a tag. The tags of collections are not in question here. -/
def value (tag : Tag) (content : String) : Except Fault Value :=
  match tag with
  | .null => .ok .null
  | .boolean => (boolean content).map .boolean
  | .integer => (integer content).map .integer
  | .real => (real content).map .real
  | .binary => (binary content).map .bytes
  | .timestamp => timestamp content
  | .text => .ok (.text content)
  | _ => .error .malformed

end WorkerAdvisor.Yaml.Scalar
