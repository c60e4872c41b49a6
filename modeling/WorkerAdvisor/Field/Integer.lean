import WorkerAdvisor.Field

/-!
Integer fields.

Besides an integer, such a field takes a truth value, a real number without a fraction and the decimal text
of an integer. The text may have white space around it, a sign, single underscores between its digits, and
a point that is followed by zeros only.
-/

set_option autoImplicit false

namespace WorkerAdvisor.Field

/-- The integer that a real number is equal to. The number is read off its bits as a whole multiple of a
power of two. -/
def wholeNumber? (x : Float) : Option Int :=
  let bits := x.toBits.toNat
  let exponent : Nat := bits >>> 52 % 2048
  let fraction : Nat := bits % 0x10000000000000
  let significand : Nat := if exponent = 0 then fraction else fraction + 0x10000000000000
  let scale : Int := (max exponent 1 : Nat) - 1075
  let sign : Int := if bits >>> 63 = 1 then -1 else 1
  if exponent = 2047 then none
  else if 0 ≤ scale then some (sign * ((significand <<< scale.toNat : Nat) : Int))
  else if significand >>> (-scale).toNat <<< (-scale).toNat = significand then
    some (sign * ((significand >>> (-scale).toNat : Nat) : Int))
  else none

def digitValue (c : Char) : Nat := c.toNat - 48

/-- Reads digits with single underscores between them, and then the end or a point with zeros after it.
`value` is the number read so far, and `afterDigit` tells whether the last character was a digit. -/
def readDigits : (value : Nat) → (afterDigit : Bool) → List Char → Option Nat
  | value, afterDigit, [] => if afterDigit then some value else none
  | value, afterDigit, c :: rest =>
    if c.isDigit then readDigits (10 * value + digitValue c) true rest
    else if c = '_' ∧ afterDigit then readDigits value false rest
    else if c = '.' ∧ afterDigit ∧ rest ≠ [] ∧ rest.all (· == '0') then some value
    else none

def readInteger? (cs : List Char) : Option Int :=
  match cs with
  | '-' :: digits => (readDigits 0 false digits).map fun n ↦ -(n : Int)
  | '+' :: digits => (readDigits 0 false digits).map fun n ↦ (n : Int)
  | digits => (readDigits 0 false digits).map fun n ↦ (n : Int)

def integerTextLimit : Nat := 4300

/-- The magnitude, 2⁶³, that a real number must stay below to count as an integer. -/
def realIntegerLimit : Nat := 0x8000000000000000

/-- An integer. A real number counts if it is whole and its magnitude is below the limit. -/
def integer (place : List FieldStep) : Value → Checked Int
  | .integer n => .ok n
  | .boolean truth => .ok (if truth then 1 else 0)
  | .real x =>
    match wholeNumber? x with
    | none => .error [⟨place, .fractional⟩]
    | some n => if n.natAbs < realIntegerLimit then .ok n else .error [⟨place, .oversizedInteger⟩]
  | .text content =>
    let trimmed := Text.trimMargin content.toList
    if integerTextLimit < trimmed.length then .error [⟨place, .oversizedInteger⟩]
    else match readInteger? trimmed with
      | some n => .ok n
      | none => .error [⟨place, .unreadableInteger⟩]
  | _ => .error [⟨place, .notInteger⟩]

end WorkerAdvisor.Field
