/-!
UTF-8, read leniently, and bytes as characters.

Where bytes are no UTF-8, the replacement character stands for the longest run of them that begins like the
encoding of a character, or for one byte if none does.
-/

set_option autoImplicit false

namespace WorkerAdvisor.Text

def replacement : Char := '\ufffd'

/-- Whether a byte continues the encoding of a character. -/
def isContinuation (byte : Nat) : Bool := 0x80 ≤ byte && byte < 0xC0

/-- Whether a byte can be the second one of a character whose encoding begins with `first`. -/
def mayFollow (first second : Nat) : Bool :=
  if first = 0xE0 then 0xA0 ≤ second && second < 0xC0
  else if first = 0xED then 0x80 ≤ second && second < 0xA0
  else if first = 0xF0 then 0x90 ≤ second && second < 0xC0
  else if first = 0xF4 then 0x80 ≤ second && second < 0x90
  else isContinuation second

/-- The number of bytes in the encoding of a character that begins with `first`; zero if none does. -/
def encodedLength (first : Nat) : Nat :=
  if first < 0x80 then 1
  else if 0xC2 ≤ first ∧ first < 0xE0 then 2
  else if 0xE0 ≤ first ∧ first < 0xF0 then 3
  else if 0xF0 ≤ first ∧ first < 0xF5 then 4
  else 0

/-- The text that bytes encode, with the replacement character where they encode none. -/
def decodeLenient : List Nat → List Char
  | [] => []
  | a :: rest =>
    match encodedLength a with
    | 1 => Char.ofNat a :: decodeLenient rest
    | 2 =>
      match rest with
      | b :: left =>
        if mayFollow a b then Char.ofNat (64 * (a - 0xC0) + (b - 0x80)) :: decodeLenient left
        else replacement :: decodeLenient (b :: left)
      | [] => [replacement]
    | 3 =>
      match rest with
      | b :: c :: left =>
        if mayFollow a b then
          if isContinuation c then
            Char.ofNat (64 * (64 * (a - 0xE0) + (b - 0x80)) + (c - 0x80)) :: decodeLenient left
          else replacement :: decodeLenient (c :: left)
        else replacement :: decodeLenient (b :: c :: left)
      | [b] => if mayFollow a b then [replacement] else replacement :: decodeLenient [b]
      | [] => [replacement]
    | 4 =>
      match rest with
      | b :: c :: d :: left =>
        if mayFollow a b then
          if isContinuation c then
            if isContinuation d then
              Char.ofNat (64 * (64 * (64 * (a - 0xF0) + (b - 0x80)) + (c - 0x80)) + (d - 0x80)) ::
                decodeLenient left
            else replacement :: decodeLenient (d :: left)
          else replacement :: decodeLenient (c :: d :: left)
        else replacement :: decodeLenient (b :: c :: d :: left)
      | [b, c] =>
        if mayFollow a b then
          if isContinuation c then [replacement] else replacement :: decodeLenient [c]
        else replacement :: decodeLenient [b, c]
      | [b] => if mayFollow a b then [replacement] else replacement :: decodeLenient [b]
      | [] => [replacement]
    | _ => replacement :: decodeLenient rest

def utf8Bytes (s : String) : List Nat := s.toUTF8.data.toList.map (·.toNat)

/-- The text whose characters have the bytes of the UTF-8 encoding as their code points. -/
def bytesAsChars (s : String) : List Char := (utf8Bytes s).map Char.ofNat

end WorkerAdvisor.Text
