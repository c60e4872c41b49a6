import Mathlib.Algebra.Group.Nat.Defs
import WorkerAdvisor.Proofs.Yaml.QuotedGap
import WorkerAdvisor.Yaml.ScalarStyle

/-!
Reading what was written in double quotes.

Every text can be written in double quotes and is read back as it is (`readsBackDouble`). The escape of a character,
by a letter or by a number, is read as that character (`escape_escape`). Where a line is cut, the cut stands for
nothing, and a space after it is read for the sake of its own backslash.
-/

set_option autoImplicit false

namespace WorkerAdvisor.Yaml.ScalarStyle

open Quoted

/-! ### Escapes by number -/

/-- The capital digits of a number are read as its last digits, before further digits. -/
theorem hexNumber?_capitalDigits (width more value n : Nat) (p : Place) (rest : List Char) :
    hexNumber? (width + more) value (glyphs p (capitalDigits width n ++ rest)) =
      hexNumber? more (16 ^ width * value + n % 16 ^ width)
        (glyphs (p.after (capitalDigits width n)) rest) := by
  induction width generalizing more n rest with
  | zero => simp [capitalDigits, Text.hexDigits, Nat.mod_one]
  | succ width ih =>
    have hdigits : capitalDigits (width + 1) n =
        capitalDigits width (n / 16) ++ [(Text.hexDigit (n % 16)).toUpper] := by
      simp [capitalDigits, Text.hexDigits]
    have hdigit := Text.hexValue?_capitalDigit (n % 16) (Nat.mod_lt n (by decide))
    have hnumber : 16 * (16 ^ width * value + n / 16 % 16 ^ width) + n % 16 =
        16 ^ (width + 1) * value + n % 16 ^ (width + 1) := by
      rw [Nat.pow_succ', Nat.mod_mul, Nat.mul_add, ← Nat.mul_assoc]
      omega
    rw [hdigits, List.append_assoc, Nat.add_right_comm, Nat.add_assoc, ih (more + 1)]
    simp [hexNumber?, hdigit, hnumber]

/-- The code point of a character is a number of that character, since it is no surrogate. -/
theorem charOfNumber_toNat (c : Char) : charOfNumber c.toNat = .ok c := by
  have hvalid : c.toNat < 0xD800 ∨ 0xDFFF < c.toNat ∧ c.toNat < 0x110000 := c.valid
  unfold charOfNumber
  rw [if_neg (by omega), if_neg (by omega), if_neg (by omega), Char.ofNat_toNat]

/-- The escape of a character by its number is read as the character.
Assumes: the letter asks for as many digits as are written, and they are enough. -/
theorem escape_number {letter : Char} {width : Nat} {c : Char} (hsimple : simpleEscape? letter = none)
    (hletter : numberEscape? letter = some width) (hfits : c.toNat < 16 ^ width) (p : Place) (rest : List Char) :
    Quoted.escape (glyphs p (letter :: (capitalDigits width c.toNat ++ rest))) =
      .ok ([c], glyphs (p.after (letter :: capitalDigits width c.toNat)) rest) := by
  have hnumber := hexNumber?_capitalDigits width 0 0 c.toNat (p.next letter) rest
  simp only [Nat.add_zero, hexNumber?, Nat.mul_zero, Nat.zero_add, Nat.mod_eq_of_lt hfits] at hnumber
  simp [Quoted.escape, hsimple, hletter, hnumber, charOfNumber_toNat]

/-! ### Escapes -/

/-- What holds of all pairs in the table of escapes holds of a character and its letter. -/
theorem of_escapeLetter? (holds : Char × Char → Prop)
    (hall : ∀ pair ∈ [('\x00', '0'), ('\x07', 'a'), ('\x08', 'b'), ('\t', 't'), ('\n', 'n'), ('\x0b', 'v'),
      ('\x0c', 'f'), ('\r', 'r'), ('\x1b', 'e'), ('"', '"'), ('\\', '\\'), ('\x85', 'N'), ('\xa0', '_'),
      ('\u2028', 'L'), ('\u2029', 'P')], holds pair)
    {c letter : Char} (hletter : escapeLetter? c = some letter) : holds (c, letter) := by
  unfold escapeLetter? at hletter
  obtain ⟨before, after, htable, -⟩ := List.lookup_eq_some_iff.mp hletter
  exact hall (c, letter) (by rw [htable]; simp)

/-- The letters of escapes are read as what they are written for. -/
theorem simpleEscape?_of_escapeLetter? {c letter : Char} (hletter : escapeLetter? c = some letter) :
    simpleEscape? letter = some c :=
  of_escapeLetter? (fun pair ↦ simpleEscape? pair.2 = some pair.1) (by decide) hletter

/-- The escape of a character begins with a backslash, and what follows is read as the character. -/
theorem escape_escape (c : Char) :
    ∃ body, escape c = '\\' :: body ∧ ∀ (p : Place) (rest : List Char),
      Quoted.escape (glyphs p (body ++ rest)) = .ok ([c], glyphs (p.after body) rest) := by
  have hvalid : c.toNat < 0x110000 := by
    have : c.toNat < 0xD800 ∨ 0xDFFF < c.toNat ∧ c.toNat < 0x110000 := c.valid
    omega
  unfold escape
  cases hletter : escapeLetter? c with
  | some letter =>
    refine ⟨[letter], rfl, fun p rest ↦ ?_⟩
    simp [Quoted.escape, simpleEscape?_of_escapeLetter? hletter]
  | none =>
    simp only
    split
    · exact ⟨_, rfl, escape_number (by decide) (by decide) (by omega)⟩
    · split
      · exact ⟨_, rfl, escape_number (by decide) (by decide) (by omega)⟩
      · exact ⟨_, rfl, escape_number (by decide) (by decide) (by omega)⟩

/-! ### The pieces of what is written -/

/-- A character that is not escaped is read as itself, or is a space. -/
theorem of_not_isEscaped {c : Char} (hescaped : isEscaped c = false) :
    c ≠ '"' ∧ c ≠ '\\' ∧ (c = ' ' ∨ isGap c = false) := by
  have hquote : c ≠ '"' := ne_of_class isEscaped hescaped rfl
  have hslash : c ≠ '\\' := ne_of_class isEscaped hescaped rfl
  by_cases hspace : c = ' '
  · exact ⟨hquote, hslash, .inl hspace⟩
  have htab : c ≠ '\t' := ne_of_class isEscaped hescaped (by decide)
  have hfeed : c ≠ '\n' := ne_of_class isEscaped hescaped (by decide)
  simp only [isEscaped, Bool.or_eq_false_iff, beq_eq_false_iff_ne] at hescaped
  exact ⟨hquote, hslash, .inr (by simp [isGap, isSpaceOrTab, isBreak, hspace, htab, hfeed, hescaped])⟩

variable {p : Place} {rest content : List Char} {left : List Glyph}

/-- An escape is read as the character that it was written for. -/
theorem reads_escape (c : Char) (hrest : Reads readDouble (glyphs (p.after (escape c)) rest) content left) :
    Reads readDouble (glyphs p (escape c ++ rest)) (c :: content) left := by
  obtain ⟨body, hbody, hread⟩ := escape_escape c
  rw [hbody] at hrest ⊢
  refine Reads.piece [c] (fun steps ↦ ?_) (by simp only [length_glyphs, List.length_append, List.length_cons]; omega)
    hrest
  simp [readDouble, hread]

/-- A character that is no mark and no gap is read as it is. -/
theorem reads_char {c : Char} (hquote : c ≠ '"') (hslash : c ≠ '\\') (hgap : isGap c = false)
    (hrest : Reads readDouble (glyphs (p.next c) rest) content left) :
    Reads readDouble (glyphs p (c :: rest)) (c :: content) left :=
  Reads.piece [c] (fun steps ↦ by simp [readDouble, hquote, hslash, hgap]) (by simp) hrest

/-- A space with a backslash of its own is kept, whatever stands beside it. -/
theorem reads_guardedSpace (hrest : Reads readDouble (glyphs ((p.next '\\').next ' ') rest) content left) :
    Reads readDouble (glyphs p ('\\' :: ' ' :: rest)) (' ' :: content) left := by
  have hescape : simpleEscape? ' ' = some ' ' := by decide
  exact Reads.piece [' '] (fun steps ↦ by simp [readDouble, Quoted.escape, hescape])
    (by simp only [length_glyphs, List.length_cons]; omega) hrest

/-- A cut stands for nothing. -/
theorem reads_cut (hhead : rest.head?.any (!isGap ·) = true)
    (hrest : Reads readDouble (glyphs ((p.next '\\').after newLine) rest) content left) :
    Reads readDouble (glyphs p ('\\' :: (newLine ++ rest))) content left := by
  cases rest with
  | nil => cases hhead
  | cons c rest =>
    have hgap : isGap c = false := by simpa using hhead
    have hsimple : simpleEscape? '\n' = none := by decide
    have hnumber : numberEscape? '\n' = none := by decide
    have hindent : 0 < indent := by decide
    have hbreaks := breaks_row true ((p.next '\\').next '\n') (fun _ hmem ↦ absurd hmem List.not_mem_nil) hindent hgap
      rest
    refine Reads.piece [] (fun steps ↦ ?_) (by simp [newLine]; omega) hrest
    simp only [List.nil_append, glyphs_cons, List.map_nil] at hbreaks
    simp [readDouble, newLine, Quoted.escape, hsimple, hnumber, isBreak, hbreaks]

/-! ### What is read -/

/-- What is written for a text that does not begin with a space begins with no space and no line end. -/
theorem head_doubleFrom (column : Nat) (first afterEscape : Bool) {cs : List Char} (hspace : cs.head? ≠ some ' ')
    (tail : List Char) : (doubleFrom column first afterEscape cs ++ '"' :: tail).head?.any (!isGap ·) = true := by
  cases cs with
  | nil => rfl
  | cons c cs =>
    obtain ⟨body, hbody, -⟩ := escape_escape c
    unfold doubleFrom
    simp only [hbody]
    split
    · split <;> rfl
    · rename_i hescaped
      have hc : c ≠ ' ' := by simpa using hspace
      have hgap := (of_not_isEscaped (by simpa using hescaped)).2.2.resolve_left hc
      split
      · rfl
      · simp [hgap]

/-- The spaces at the start of what is written do not come before a line end. -/
theorem spacesEnd_doubleFrom (column : Nat) (first afterEscape : Bool) (cs tail : List Char) :
    SpacesEnd (doubleFrom column first afterEscape cs ++ '"' :: tail) := by
  induction cs generalizing column first afterEscape with
  | nil => exact spacesEnd_of_not_isGap rfl tail
  | cons c cs ih =>
    obtain ⟨body, hbody, -⟩ := escape_escape c
    unfold doubleFrom
    simp only [hbody]
    split
    · split <;> exact spacesEnd_of_not_isGap rfl _
    · rename_i hescaped
      split
      · exact spacesEnd_of_not_isGap rfl _
      · rcases (of_not_isEscaped (by simpa using hescaped)).2.2 with rfl | hgap
        · exact spacesEnd_space.mpr (ih ..)
        · exact spacesEnd_of_not_isGap hgap _

/-- Whether a text that is written in double quotes before a tail is read back as it is. -/
def ReadsBackDouble (tail cs : List Char) : Prop :=
  ∀ (p : Place) (column : Nat) (first afterEscape : Bool),
    Reads readDouble (glyphs p (doubleFrom column first afterEscape cs ++ '"' :: tail)) cs
      (glyphs (p.after (doubleFrom column first afterEscape cs ++ ['"'])) tail)

variable {tail : List Char}

theorem readsBackDouble_nil : ReadsBackDouble tail [] := by
  intro p column first afterEscape steps hsteps
  rcases steps with _ | steps
  · simp at hsteps
  · rfl

/-- A character that need not be escaped is read back with what follows it. -/
theorem readsBackDouble_unescaped {c : Char} {cs : List Char} (hescaped : isEscaped c = false)
    (hcs : ReadsBackDouble tail cs) : ReadsBackDouble tail (c :: cs) := by
  intro p column first afterEscape
  obtain ⟨hquote, hslash, hgap⟩ := of_not_isEscaped hescaped
  unfold doubleFrom
  simp only [hescaped, Bool.false_eq_true, if_false]
  split
  · rcases hgap with rfl | hgap
    · have hread := reads_cut (p := p) (by rfl) (reads_guardedSpace (hcs _ (indent + 2) false false))
      simpa using hread
    · have hspace : c ≠ ' ' := ne_of_class isGap hgap rfl
      have hread := reads_cut (p := p) (by simp [hgap])
        (reads_char hquote hslash hgap (hcs _ (indent + 1) false false))
      simpa [hspace] using hread
  · rcases hgap with rfl | hgap
    · have hread := (hcs (p.next ' ') (column + 1) false false).space takesGaps_readDouble
        (spacesEnd_doubleFrom ..)
      simpa using hread
    · have hread := reads_char hquote hslash hgap (hcs (p.next c) (column + 1) false false)
      simpa using hread

/-- A character that is escaped is read back with what follows it. -/
theorem readsBackDouble_escaped {c : Char} {cs : List Char} (hescaped : isEscaped c = true)
    (hcs : ReadsBackDouble tail cs) (hcs' : ReadsBackDouble tail cs.tail) : ReadsBackDouble tail (c :: cs) := by
  intro p column first afterEscape
  unfold doubleFrom
  simp only [hescaped, if_true]
  split
  · by_cases hspace : cs.head? = some ' '
    · obtain ⟨ds, rfl⟩ := List.head?_eq_some_iff.mp hspace
      have hspaceEscaped : isEscaped ' ' = false := by decide
      have hread := reads_escape (p := p) c
        (reads_cut (by rfl) (reads_guardedSpace (hcs' _ (indent + 2) false false)))
      simpa [doubleFrom, hspaceEscaped, width, indent] using hread
    · have hread := reads_escape (p := p) c (reads_cut (head_doubleFrom indent false true hspace tail)
        (hcs _ indent false true))
      simpa [hspace] using hread
  · have hread := reads_escape (p := p) c (hcs _ (column + (escape c).length) false true)
    simpa using hread

/-- A text that is written in double quotes is read back as it is. -/
theorem readsBackDouble (cs : List Char) : ReadsBackDouble tail cs := by
  -- After a cut that follows an escape a space is read with its backslash, two characters in one step.
  suffices hboth : ReadsBackDouble tail cs ∧ ReadsBackDouble tail cs.tail from hboth.1
  induction cs with
  | nil => exact ⟨readsBackDouble_nil, readsBackDouble_nil⟩
  | cons c cs ih =>
    refine ⟨?_, ih.1⟩
    cases hescaped : isEscaped c with
    | true => exact readsBackDouble_escaped hescaped ih.1 ih.2
    | false => exact readsBackDouble_unescaped hescaped ih.1

end WorkerAdvisor.Yaml.ScalarStyle
