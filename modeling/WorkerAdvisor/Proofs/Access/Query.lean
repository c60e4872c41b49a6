import WorkerAdvisor.Access.Query
import WorkerAdvisor.Proofs.Text.Normal
import WorkerAdvisor.Proofs.Text.Utf8
import WorkerAdvisor.Text.Quoted

/-!
Writing the fields of a query.

`Query.escape` writes a text so that it can stand in a field: the bytes of its encoding, each as an unreserved character
of ASCII or as a percent escape. What is written holds none of the characters that separate (`not_mem_of_isWritten`), and
it is read as the text (`unescape_escape`). A field at the end of a query leaves the fields before it as they are
(`fields_withField`), so it is the last one of its name (`fields_withField_escape`).
-/

set_option autoImplicit false

namespace WorkerAdvisor.Access.Query

/-! ### Escapes -/

/-- A character that stands for itself everywhere in a URL. -/
def isUnreserved (c : Char) : Bool := c.isAlphanum || c == '-' || c == '.' || c == '_' || c == '~'

/-- A byte as it is written in a field. -/
def escapeByte (byte : Nat) : List Char :=
  if isUnreserved (Char.ofNat byte) then [Char.ofNat byte] else '%' :: (Text.hexDigits 2 byte).map Char.toUpper

/-- A text as it is written in a field. -/
def escape (s : String) : String := String.ofList ((Text.utf8Bytes s).flatMap escapeByte)

/-- A character that is written for some byte. -/
def IsWritten (c : Char) : Prop := isUnreserved c = true ∨ c = '%'

instance : DecidablePred IsWritten := fun c ↦ inferInstanceAs (Decidable (isUnreserved c = true ∨ c = '%'))

theorem isUnreserved_capitalDigit : ∀ digit < 16, isUnreserved (Text.hexDigit digit).toUpper = true := by
  decide

theorem isWritten_of_mem_escapeByte {byte : Nat} {c : Char} (hc : c ∈ escapeByte byte) : IsWritten c := by
  unfold escapeByte at hc
  split at hc
  · rename_i hunreserved
    rw [List.mem_singleton] at hc
    exact .inl (hc ▸ hunreserved)
  · simp only [Text.hexDigits, List.nil_append, List.cons_append, List.map_cons, List.map_nil, List.mem_cons,
      List.not_mem_nil, or_false] at hc
    rcases hc with rfl | rfl | rfl
    · exact .inr rfl
    all_goals exact .inl (isUnreserved_capitalDigit _ (Nat.mod_lt _ (by decide)))

/-- An escaped text has only characters that need no escape, and percent signs. -/
theorem isWritten_of_mem_escape {s : String} : ∀ c ∈ (escape s).toList, IsWritten c := by
  intro c hc
  rw [escape, String.toList_ofList, List.mem_flatMap] at hc
  obtain ⟨byte, -, hc⟩ := hc
  exact isWritten_of_mem_escapeByte hc

theorem not_mem_of_isWritten {cs : List Char} (hwritten : ∀ c ∈ cs, IsWritten c) {c : Char} (hc : ¬ IsWritten c) :
    c ∉ cs :=
  fun hmem ↦ hc (hwritten c hmem)

/-- What is written for a text is ASCII. -/
theorem toNat_lt_of_isWritten {c : Char} (hc : IsWritten c) : c.toNat < 128 := by
  rcases hc with hunreserved | rfl
  · simp only [isUnreserved, Bool.or_eq_true, beq_iff_eq] at hunreserved
    rcases hunreserved with (((halphanum | rfl) | rfl) | rfl) | rfl
    · exact Text.toNat_lt_of_isAlphanum halphanum
    all_goals decide
  · decide

/-! ### Reading escapes -/

theorem unescapeFrom_unreserved {c : Char} (hc : isUnreserved c = true) (pending : List Nat) (rest : List Char) :
    unescapeFrom pending (c :: rest) = unescapeFrom (c.toNat :: pending) rest := by
  have hascii := toNat_lt_of_isWritten (.inl hc)
  have hpercent : c ≠ '%' := by
    rintro rfl
    exact absurd hc (by decide)
  rw [unescapeFrom.eq_def]
  simp only [if_neg (Nat.not_le.mpr hascii), if_neg hpercent]

/-- What is written for a byte is read as the byte. -/
theorem unescapeFrom_escapeByte {byte : Nat} (hbyte : byte < 256) (pending : List Nat) (rest : List Char) :
    unescapeFrom pending (escapeByte byte ++ rest) = unescapeFrom (byte :: pending) rest := by
  by_cases hunreserved : isUnreserved (Char.ofNat byte) = true
  · have hcode : (Char.ofNat byte).toNat = byte := by
      rw [Char.ofNat, dif_pos (Or.inl (by omega))]
      rfl
    rw [escapeByte, if_pos hunreserved, List.singleton_append, unescapeFrom_unreserved hunreserved, hcode]
  · have hhigh := Text.hexValue?_capitalDigit (byte / 16 % 16) (Nat.mod_lt _ (by decide))
    have hlow := Text.hexValue?_capitalDigit (byte % 16) (Nat.mod_lt _ (by decide))
    have hvalue : 16 * (byte / 16 % 16) + byte % 16 = byte := by omega
    rw [escapeByte, if_neg hunreserved]
    simp only [Text.hexDigits, List.nil_append, List.cons_append, List.map_cons, List.map_nil]
    rw [unescapeFrom.eq_def]
    simp [hhigh, hlow, hvalue]

/-- Escaped bytes are read back and decoded as a whole. -/
theorem unescapeFrom_flatMap {bytes : List Nat} (hbytes : ∀ byte ∈ bytes, byte < 256) (pending : List Nat) :
    unescapeFrom pending (bytes.flatMap escapeByte) = Text.decodeLenient (pending.reverse ++ bytes) := by
  induction bytes generalizing pending with
  | nil => simp [unescapeFrom]
  | cons byte bytes ih =>
    rw [List.forall_mem_cons] at hbytes
    rw [List.flatMap_cons, unescapeFrom_escapeByte hbytes.1, ih hbytes.2]
    simp

/-- An escaped text is read as the text. -/
theorem unescape_escape (s : String) : unescape (escape s).toList = s := by
  have hplus : '+' ∉ (escape s).toList := not_mem_of_isWritten isWritten_of_mem_escape (by decide)
  have hsame : ((escape s).toList.map fun c ↦ if c = '+' then ' ' else c) = (escape s).toList :=
    (List.map_congr_left fun c hc ↦ if_neg fun (heq : c = '+') ↦ hplus (heq ▸ hc)).trans (List.map_id _)
  rw [unescape, hsame, escape, String.toList_ofList, unescapeFrom_flatMap fun _ ↦ Text.lt_of_mem_utf8Bytes,
    List.reverse_nil, List.nil_append, Text.decodeLenient_utf8Bytes, String.ofList_toList]

/-- Unreserved characters are written as they are. -/
theorem escape_of_unreserved {s : String} (hs : ∀ c ∈ s.toList, isUnreserved c = true) : escape s = s := by
  have hchar : ∀ c ∈ s.toList, (Text.charBytes c).flatMap escapeByte = [c] := by
    intro c hc
    have hascii := toNat_lt_of_isWritten (.inl (hs c hc))
    rw [Text.charBytes_one hascii, List.flatMap_singleton, escapeByte, Char.ofNat_toNat, if_pos (hs c hc)]
  rw [escape, Text.utf8Bytes_eq_flatMap, List.flatMap_assoc, List.flatMap_congr hchar, List.flatMap_singleton',
    String.ofList_toList]

/-! ### A field at the end -/

/-- A query with a field put at its end. -/
def withField (query field : String) : String := if query = "" then field else query ++ "&" ++ field

/-- A field that is added to a query comes last, and the others stay as they were. -/
theorem fields_withField {written : String} (hascii : ∀ c ∈ written.toList, c.toNat < 128)
    (hseparator : '&' ∉ written.toList) (hnonempty : written ≠ "") (query : String) :
    fields (withField query written) = fields query ++ [field written.toList] := by
  have hlast : (Text.splitOn '&' written.toList).filter (!·.isEmpty) = [written.toList] := by
    rw [Text.splitOn_of_not_mem hseparator]
    simp [hnonempty]
  by_cases hquery : query = ""
  · rw [withField, if_pos hquery, fields, Text.bytesAsChars_of_ascii hascii, hlast, hquery]
    rfl
  · have hamp : Text.bytesAsChars "&" = ['&'] := by decide
    rw [withField, if_neg hquery, fields, Text.bytesAsChars_append, Text.bytesAsChars_append, hamp, List.append_assoc,
      List.singleton_append, Text.bytesAsChars_of_ascii hascii, Text.splitOn_append, List.filter_append, hlast,
      List.map_append]
    rfl

/-- A named field at the end of a query is read as the name and the text that was escaped. -/
theorem fields_withField_escape {name s : String} (hname : ∀ c ∈ name.toList, isUnreserved c = true) (hs : s ≠ "")
    (query : String) :
    fields (withField query (name ++ "=" ++ escape s)) = fields query ++ [(name, s)] := by
  have hescape : (escape s).toList ≠ [] := by
    intro hnone
    have hread := unescape_escape s
    rw [hnone] at hread
    exact hs hread.symm
  have hwritten : ∀ c ∈ name.toList, IsWritten c := fun c hc ↦ .inl (hname c hc)
  have hequal : '=' ∉ name.toList := not_mem_of_isWritten hwritten (by decide)
  have hseparator : '&' ∉ (name ++ "=" ++ escape s).toList := by
    simpa using ⟨not_mem_of_isWritten hwritten (by decide), not_mem_of_isWritten isWritten_of_mem_escape (by decide)⟩
  have hascii : ∀ c ∈ (name ++ "=" ++ escape s).toList, c.toNat < 128 := by
    intro c hc
    simp only [String.toList_append, List.mem_append] at hc
    rcases hc with (hc | hc) | hc
    · exact toNat_lt_of_isWritten (hwritten c hc)
    · obtain rfl : c = '=' := by simpa using hc
      decide
    · exact toNat_lt_of_isWritten (isWritten_of_mem_escape c hc)
  have hparts : Text.breakAt '=' (name ++ "=" ++ escape s).toList = (name.toList, (escape s).toList) :=
    (Text.breakAt_eq_iff hescape).mpr ⟨by simp, hequal⟩
  have hread : unescape name.toList = name := by
    simpa only [escape_of_unreserved hname] using unescape_escape name
  rw [fields_withField hascii hseparator (by simp) query, field, hparts]
  simp only [hread, unescape_escape]

end WorkerAdvisor.Access.Query
