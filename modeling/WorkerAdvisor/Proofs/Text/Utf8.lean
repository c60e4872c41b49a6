import Mathlib.Data.List.Basic
import WorkerAdvisor.Text.Utf8

/-!
Texts and the bytes that encode them.

The bytes of a text are those of its characters, one character after the other (`utf8Bytes_eq_flatMap`), and read
leniently they give the characters back (`decodeLenient_utf8Bytes`): an encoding begins with a byte that tells its length,
and what follows that byte may follow it. A text of ASCII is its own bytes (`bytesAsChars_of_ascii`).
-/

set_option autoImplicit false

namespace WorkerAdvisor.Text

theorem toList_toUTF8 (s : String) : s.toUTF8.data.toList = s.toList.flatMap String.utf8EncodeChar := by
  rw [String.toUTF8_eq_toByteArray, ← String.utf8Encode_toList, List.utf8Encode, List.data_toByteArray]

def charBytes (c : Char) : List Nat := (String.utf8EncodeChar c).map (·.toNat)

/-- The bytes of a text are those of its characters, one after the other. -/
theorem utf8Bytes_eq_flatMap (s : String) : utf8Bytes s = s.toList.flatMap charBytes := by
  rw [utf8Bytes, toList_toUTF8, List.map_flatMap]
  rfl

/-! ### The bytes of one character -/

/-- The code point of a character is no surrogate and not beyond the last plane. -/
theorem toNat_bounds (c : Char) : (c.toNat < 0xD800 ∨ 0xDFFF < c.toNat) ∧ c.toNat < 0x110000 := by
  have hvalid : c.toNat < 0xD800 ∨ 0xDFFF < c.toNat ∧ c.toNat < 0x110000 := c.valid
  omega

variable {c : Char}

/-- An ASCII character is one byte. -/
theorem charBytes_one (hhigh : c.toNat < 0x80) : charBytes c = [c.toNat] := by
  have hencode : String.utf8EncodeChar c = [UInt8.ofNat c.toNat] := if_pos (by exact Nat.le_of_lt_succ hhigh)
  rw [charBytes, hencode, List.map_singleton, UInt8.toNat_ofNat', Nat.mod_eq_of_lt (by omega)]

theorem charBytes_two (hlow : 0x80 ≤ c.toNat) (hhigh : c.toNat < 0x800) :
    charBytes c = [0xC0 + c.toNat / 64, 0x80 + c.toNat % 64] := by
  have hcode : c.val.toNat = c.toNat := rfl
  simp only [charBytes, String.utf8EncodeChar, hcode]
  rw [if_neg (by omega), if_pos (by omega)]
  simp only [List.map_cons, List.map_nil, UInt8.toNat_ofNat', List.cons.injEq, and_true]
  omega

theorem charBytes_three (hlow : 0x800 ≤ c.toNat) (hhigh : c.toNat < 0x10000) :
    charBytes c = [0xE0 + c.toNat / 4096, 0x80 + c.toNat / 64 % 64, 0x80 + c.toNat % 64] := by
  have hcode : c.val.toNat = c.toNat := rfl
  simp only [charBytes, String.utf8EncodeChar, hcode]
  rw [if_neg (by omega), if_neg (by omega), if_pos (by omega)]
  simp only [List.map_cons, List.map_nil, UInt8.toNat_ofNat', List.cons.injEq, and_true]
  omega

/-- A character beyond the first plane is four bytes. -/
theorem charBytes_four (hlow : 0x10000 ≤ c.toNat) :
    charBytes c =
      [0xF0 + c.toNat / 262144, 0x80 + c.toNat / 4096 % 64, 0x80 + c.toNat / 64 % 64, 0x80 + c.toNat % 64] := by
  have hcode : c.val.toNat = c.toNat := rfl
  obtain ⟨-, hhigh⟩ := toNat_bounds c
  simp only [charBytes, String.utf8EncodeChar, hcode]
  rw [if_neg (by omega), if_neg (by omega), if_neg (by omega)]
  simp only [List.map_cons, List.map_nil, UInt8.toNat_ofNat', List.cons.injEq, and_true]
  omega

/-! ### Reading the bytes of a character -/

variable {a b d e : Nat} (rest : List Nat)

theorem decodeLenient_one (hlength : encodedLength a = 1) :
    decodeLenient (a :: rest) = Char.ofNat a :: decodeLenient rest := by
  rw [decodeLenient.eq_def]
  simp only [hlength]

theorem decodeLenient_two (hlength : encodedLength a = 2) (hb : mayFollow a b = true) :
    decodeLenient (a :: b :: rest) = Char.ofNat (64 * (a - 0xC0) + (b - 0x80)) :: decodeLenient rest := by
  rw [decodeLenient.eq_def]
  simp only [hlength, hb, if_true]

theorem decodeLenient_three (hlength : encodedLength a = 3) (hb : mayFollow a b = true)
    (hd : isContinuation d = true) :
    decodeLenient (a :: b :: d :: rest) =
      Char.ofNat (64 * (64 * (a - 0xE0) + (b - 0x80)) + (d - 0x80)) :: decodeLenient rest := by
  rw [decodeLenient.eq_def]
  simp only [hlength, hb, hd, if_true]

theorem decodeLenient_four (hlength : encodedLength a = 4) (hb : mayFollow a b = true)
    (hd : isContinuation d = true) (he : isContinuation e = true) :
    decodeLenient (a :: b :: d :: e :: rest) =
      Char.ofNat (64 * (64 * (64 * (a - 0xF0) + (b - 0x80)) + (d - 0x80)) + (e - 0x80)) :: decodeLenient rest := by
  rw [decodeLenient.eq_def]
  simp only [hlength, hb, hd, he, if_true]

/-- Six bits behind the mark of a continuation are a continuation byte. -/
theorem isContinuation_of_lt {n : Nat} (hn : n < 64) : isContinuation (0x80 + n) = true := by
  simp only [isContinuation, Bool.and_eq_true, decide_eq_true_eq]
  omega

theorem mayFollow_two {n : Nat} (hhigh : n < 0x800) : mayFollow (0xC0 + n / 64) (0x80 + n % 64) = true := by
  rw [mayFollow, if_neg (by omega), if_neg (by omega), if_neg (by omega), if_neg (by omega)]
  exact isContinuation_of_lt (Nat.mod_lt n (by decide))

/-- The second byte of three may follow the first, since the code point is no surrogate and needs three bytes. -/
theorem mayFollow_three {n : Nat} (hlow : 0x800 ≤ n) (hhigh : n < 0x10000) (hsurrogate : n < 0xD800 ∨ 0xDFFF < n) :
    mayFollow (0xE0 + n / 4096) (0x80 + n / 64 % 64) = true := by
  simp only [mayFollow, isContinuation]
  split
  · simp only [Bool.and_eq_true, decide_eq_true_eq]
    omega
  split
  · simp only [Bool.and_eq_true, decide_eq_true_eq]
    omega
  rw [if_neg (by omega), if_neg (by omega)]
  simp only [Bool.and_eq_true, decide_eq_true_eq]
  omega

/-- The second byte of four may follow the first, since the code point is not beyond the last plane. -/
theorem mayFollow_four {n : Nat} (hlow : 0x10000 ≤ n) (hhigh : n < 0x110000) :
    mayFollow (0xF0 + n / 262144) (0x80 + n / 4096 % 64) = true := by
  simp only [mayFollow, isContinuation]
  rw [if_neg (by omega), if_neg (by omega)]
  split
  · simp only [Bool.and_eq_true, decide_eq_true_eq]
    omega
  split
  · simp only [Bool.and_eq_true, decide_eq_true_eq]
    omega
  simp only [Bool.and_eq_true, decide_eq_true_eq]
  omega

/-- The bytes of a character are read as the character, whatever follows them. -/
theorem decodeLenient_charBytes_append (c : Char) :
    decodeLenient (charBytes c ++ rest) = c :: decodeLenient rest := by
  obtain ⟨hsurrogate, hlast⟩ := toNat_bounds c
  have hlow (n : Nat) : isContinuation (0x80 + n % 64) = true := isContinuation_of_lt (Nat.mod_lt n (by decide))
  rcases Nat.lt_or_ge c.toNat 0x80 with hone | hone
  · rw [charBytes_one hone, List.singleton_append, decodeLenient_one rest (if_pos hone), Char.ofNat_toNat]
  rcases Nat.lt_or_ge c.toNat 0x800 with htwo | htwo
  · have hlength : encodedLength (0xC0 + c.toNat / 64) = 2 := by
      rw [encodedLength, if_neg (by omega), if_pos (by omega)]
    have hcode : 64 * (0xC0 + c.toNat / 64 - 0xC0) + (0x80 + c.toNat % 64 - 0x80) = c.toNat := by omega
    rw [charBytes_two hone htwo, List.cons_append, List.singleton_append,
      decodeLenient_two rest hlength (mayFollow_two htwo), hcode, Char.ofNat_toNat]
  rcases Nat.lt_or_ge c.toNat 0x10000 with hthree | hthree
  · have hlength : encodedLength (0xE0 + c.toNat / 4096) = 3 := by
      rw [encodedLength, if_neg (by omega), if_neg (by omega), if_pos (by omega)]
    have hcode : 64 * (64 * (0xE0 + c.toNat / 4096 - 0xE0) + (0x80 + c.toNat / 64 % 64 - 0x80)) +
        (0x80 + c.toNat % 64 - 0x80) = c.toNat := by omega
    rw [charBytes_three htwo hthree, List.cons_append, List.cons_append, List.singleton_append,
      decodeLenient_three rest hlength (mayFollow_three htwo hthree hsurrogate) (hlow _), hcode, Char.ofNat_toNat]
  · have hlength : encodedLength (0xF0 + c.toNat / 262144) = 4 := by
      rw [encodedLength, if_neg (by omega), if_neg (by omega), if_neg (by omega), if_pos (by omega)]
    have hcode : 64 * (64 * (64 * (0xF0 + c.toNat / 262144 - 0xF0) + (0x80 + c.toNat / 4096 % 64 - 0x80)) +
        (0x80 + c.toNat / 64 % 64 - 0x80)) + (0x80 + c.toNat % 64 - 0x80) = c.toNat := by omega
    rw [charBytes_four hthree, List.cons_append, List.cons_append, List.cons_append, List.singleton_append,
      decodeLenient_four rest hlength (mayFollow_four hthree hlast) (hlow _) (hlow _), hcode, Char.ofNat_toNat]

/-- Characters are read back from their bytes. -/
theorem decodeLenient_flatMap (cs : List Char) : decodeLenient (cs.flatMap charBytes) = cs := by
  induction cs with
  | nil => simp [decodeLenient]
  | cons c cs ih => rw [List.flatMap_cons, decodeLenient_charBytes_append, ih]

/-- The bytes of a text are read as the text. -/
theorem decodeLenient_utf8Bytes (s : String) : decodeLenient (utf8Bytes s) = s.toList := by
  rw [utf8Bytes_eq_flatMap, decodeLenient_flatMap]

theorem lt_of_mem_utf8Bytes {s : String} {byte : Nat} (hbyte : byte ∈ utf8Bytes s) : byte < 256 := by
  obtain ⟨byte, -, rfl⟩ := List.mem_map.mp hbyte
  exact byte.toNat_lt

/-! ### Bytes as characters -/

theorem bytesAsChars_append (s t : String) : bytesAsChars (s ++ t) = bytesAsChars s ++ bytesAsChars t := by
  simp [bytesAsChars, utf8Bytes_eq_flatMap]

/-- The bytes of an ASCII text, taken as characters, are the text. -/
theorem bytesAsChars_of_ascii {s : String} (hascii : ∀ c ∈ s.toList, c.toNat < 128) : bytesAsChars s = s.toList := by
  have hchar : ∀ c ∈ s.toList, (charBytes c).map Char.ofNat = [c] := by
    intro c hc
    rw [charBytes_one (hascii c hc), List.map_singleton, Char.ofNat_toNat]
  rw [bytesAsChars, utf8Bytes_eq_flatMap, List.map_flatMap, List.flatMap_congr hchar, List.flatMap_singleton']

end WorkerAdvisor.Text
