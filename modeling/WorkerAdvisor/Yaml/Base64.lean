/-!
Base 64, as it is read leniently.

Characters that are no digits are passed over. Padding ends the data once it completes a group of four that
has at least two digits; without that, a group may not be cut short.
-/

set_option autoImplicit false

namespace WorkerAdvisor.Yaml.Base64

def digit? (c : Char) : Option Nat :=
  if 'A' ≤ c ∧ c ≤ 'Z' then some (c.toNat - 65)
  else if 'a' ≤ c ∧ c ≤ 'z' then some (c.toNat - 71)
  else if '0' ≤ c ∧ c ≤ '9' then some (c.toNat + 4)
  else if c = '+' then some 62
  else if c = '/' then some 63
  else none

/-- The bytes of a text from a place where `count` digits of a group are read, the last of which leaves the
bits `left`, and `padding` characters of padding follow them directly. -/
def decodeFrom : (count left padding : Nat) → List Char → Option (List UInt8)
  | count, _, _, [] => if count = 0 then some [] else none
  | count, left, padding, c :: rest =>
    if c = '=' then
      if 2 ≤ count ∧ 4 ≤ count + (padding + 1) then some []
      else decodeFrom count left (if 2 ≤ count then padding + 1 else padding) rest
    else match digit? c with
      | none => decodeFrom count left padding rest
      | some digit =>
        match count with
        | 0 => decodeFrom 1 digit 0 rest
        | 1 => (decodeFrom 2 (digit % 16) 0 rest).map ((left * 4 + digit / 16).toUInt8 :: ·)
        | 2 => (decodeFrom 3 (digit % 4) 0 rest).map ((left * 16 + digit / 4).toUInt8 :: ·)
        | _ => (decodeFrom 0 0 0 rest).map ((left * 64 + digit).toUInt8 :: ·)

def decode (cs : List Char) : Option (List UInt8) := decodeFrom 0 0 0 cs

end WorkerAdvisor.Yaml.Base64
