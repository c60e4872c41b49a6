import Mathlib.Data.List.DropRight
import WorkerAdvisor.Text.Blank
import WorkerAdvisor.Text.Lowercase
import WorkerAdvisor.Text.WordChar

/-!
What becomes of a part of a text when the text is trimmed or put into lower case.

A part with no white space at its own ends is kept when the text around it is trimmed (`trimBlank_append`). In lower case
no text is shorter (`length_le_length_lowerAfter`). The characters go into lower case each for itself, unless there is a
capital sigma among them (`lowerAfter_eq_flatMap`). In ASCII that is the mapping of single characters (`lower_of_ascii`),
by which the marks, which belong to no word, stay as they are (`lowerChar_of_isMark`).
-/

set_option autoImplicit false

namespace WorkerAdvisor.Text

/-! ### White space at the ends -/

/-- A part that does not begin with what is dropped stops the dropping. -/
theorem dropWhile_append_of_kept {drop : Char → Bool} {middle : List Char} (hmiddle : middle ≠ [])
    (hkept : middle.dropWhile drop = middle) (front back : List Char) :
    (front ++ (middle ++ back)).dropWhile drop = front.dropWhile drop ++ (middle ++ back) := by
  have hrest : (middle ++ back).dropWhile drop = middle ++ back := by
    rw [List.dropWhile_append, hkept, if_neg (by simpa using hmiddle)]
  rw [List.dropWhile_append, hrest]
  split
  · rename_i hfront
    rw [List.isEmpty_iff.mp hfront, List.nil_append]
  · rfl

/-- Only what stands behind a part that is kept by itself is dropped. -/
theorem dropEndWhile_append_of_kept {drop : Char → Bool} {middle : List Char} (hmiddle : middle ≠ [])
    (hkept : dropEndWhile drop middle = middle) (front back : List Char) :
    dropEndWhile drop (front ++ middle ++ back) = front ++ middle ++ dropEndWhile drop back := by
  have hreverse : middle.reverse.dropWhile drop = middle.reverse := by
    simpa [dropEndWhile] using congrArg List.reverse hkept
  have hdrop := dropWhile_append_of_kept (by simpa using hmiddle) hreverse back.reverse front.reverse
  rw [dropEndWhile, List.reverse_append, List.reverse_append, hdrop]
  simp [dropEndWhile]

theorem dropEndWhile_eq_rdropWhile (drop : Char → Bool) (cs : List Char) :
    dropEndWhile drop cs = cs.rdropWhile drop := rfl

theorem dropEndWhile_eq_nil {drop : Char → Bool} {cs : List Char} (hdrop : ∀ c ∈ cs, drop c = true) :
    dropEndWhile drop cs = [] := by
  rw [dropEndWhile_eq_rdropWhile, List.rdropWhile_eq_nil_iff]
  exact hdrop

/-- What is left after dropping characters at the end is the beginning of the text. -/
theorem dropEndWhile_prefix_self (drop : Char → Bool) (cs : List Char) : dropEndWhile drop cs <+: cs := by
  rw [dropEndWhile_eq_rdropWhile]
  exact List.rdropWhile_prefix drop cs

theorem trimBlank_infix_self (cs : List Char) : trimBlank cs <:+: cs :=
  (dropEndWhile_prefix_self isBlank _).isInfix.trans (List.dropWhile_suffix isBlank).isInfix

/-- What trimming leaves as it is has no white space at either end. -/
theorem kept_of_trimBlank_eq {cs : List Char} (htrimmed : trimBlank cs = cs) :
    cs.dropWhile isBlank = cs ∧ dropEndWhile isBlank cs = cs := by
  have hshorter : (trimBlank cs).length ≤ (cs.dropWhile isBlank).length :=
    (dropEndWhile_prefix_self isBlank _).length_le
  have hsuffix : cs.dropWhile isBlank <:+ cs := List.dropWhile_suffix isBlank
  have hfront : cs.dropWhile isBlank = cs :=
    hsuffix.eq_of_length (Nat.le_antisymm hsuffix.length_le (by rwa [htrimmed] at hshorter))
  refine ⟨hfront, ?_⟩
  rwa [trimBlank, hfront] at htrimmed

/-- A part that is trimmed stays in a longer text, and white space is dropped on both sides of it. -/
theorem trimBlank_append {middle : List Char} (hmiddle : middle ≠ []) (htrimmed : trimBlank middle = middle)
    (front back : List Char) :
    trimBlank (front ++ middle ++ back) = front.dropWhile isBlank ++ middle ++ dropEndWhile isBlank back := by
  obtain ⟨hfront, hback⟩ := kept_of_trimBlank_eq htrimmed
  rw [trimBlank, List.append_assoc, dropWhile_append_of_kept hmiddle hfront, ← List.append_assoc,
    dropEndWhile_append_of_kept hmiddle hback]

/-- A text that is not empty and has no white space at its ends is not blank, whatever stands around it. -/
theorem all_isBlank_append_eq_false {middle : List Char} (hmiddle : middle ≠ []) (htrimmed : trimBlank middle = middle)
    (front back : List Char) : (front ++ middle ++ back).all isBlank = false := by
  obtain ⟨c, rest, rfl⟩ := List.exists_cons_of_ne_nil hmiddle
  have hkept := (kept_of_trimBlank_eq htrimmed).1
  cases hfirst : isBlank c with
  | false => simp [hfirst]
  | true =>
    rw [List.dropWhile_cons_of_pos hfirst] at hkept
    have hsuffix : rest.dropWhile isBlank <:+ rest := List.dropWhile_suffix isBlank
    have hshorter := hsuffix.length_le
    rw [hkept, List.length_cons] at hshorter
    exact absurd hshorter (Nat.not_succ_le_self _)

/-! ### Lower case -/

/-- A text without a capital sigma is put into lower case character by character. -/
theorem lowerAfter_eq_flatMap {cs : List Char} (hsigma : '\u03a3' ∉ cs) (before : List Char) :
    lowerAfter before cs = cs.flatMap lowerChar := by
  induction cs generalizing before with
  | nil => rfl
  | cons c cs ih =>
    rw [List.mem_cons, not_or] at hsigma
    have hc : c.toNat ≠ 0x3A3 := fun hcode ↦ hsigma.1 (Char.toNat_inj.mp hcode.symm)
    rw [lowerAfter, if_neg (by simp [hc]), ih hsigma.2, List.flatMap_cons]

/-- Without a capital sigma, whose small form depends on what stands around it, each character is lowered by itself. -/
theorem toList_lower {s : String} (hsigma : '\u03a3' ∉ s.toList) : (lower s).toList = s.toList.flatMap lowerChar := by
  rw [lower, String.toList_ofList, lowerAfter_eq_flatMap hsigma]

/-! ### Lower case in ASCII -/

theorem toNat_lt_of_isAlphanum {c : Char} (hc : c.isAlphanum = true) : c.toNat < 128 := by
  have hlast : c.val ≤ 'z'.val → c.toNat < 128 := fun hle ↦ Nat.lt_succ_of_le
    (Nat.le_trans (UInt32.le_iff_toNat_le.mp hle) (by decide))
  rcases Bool.or_eq_true_iff.mp hc with halpha | hdigit
  · rcases Bool.or_eq_true_iff.mp halpha with hupper | hlower
    · exact hlast (UInt32.le_trans (of_decide_eq_true hupper).2 (by decide))
    · exact hlast (of_decide_eq_true (Bool.and_eq_true_iff.mp hlower).2)
  · exact hlast (UInt32.le_trans (of_decide_eq_true (Bool.and_eq_true_iff.mp hdigit).2) (by decide))

theorem toLower_of_not_isAlphanum {c : Char} (hc : c.isAlphanum = false) : c.toLower = c :=
  have halpha : c.isAlpha = false := (Bool.or_eq_false_iff.mp hc).1
  dif_neg (of_decide_eq_false (Bool.or_eq_false_iff.mp halpha).1)

/-- No character beyond ASCII has a small form in ASCII. -/
theorem toNat_lt_of_toLower {c : Char} (hlower : c.toLower.toNat < 128) : c.toNat < 128 := by
  cases halphanum : c.isAlphanum with
  | true => exact toNat_lt_of_isAlphanum halphanum
  | false => rwa [toLower_of_not_isAlphanum halphanum] at hlower

/-- A text of ASCII characters is lowered letter by letter. -/
theorem lower_of_ascii {s : String} (hascii : ∀ c ∈ s.toList, c.toNat < 128) :
    lower s = String.ofList (s.toList.map Char.toLower) := by
  have hsigma : '\u03a3' ∉ s.toList := fun hmem ↦ absurd (hascii _ hmem) (by decide)
  have hchar : ∀ c ∈ s.toList, lowerChar c = [c.toLower] := fun c hc ↦ if_pos (hascii c hc)
  rw [← String.toList_inj, toList_lower hsigma, String.toList_ofList, List.flatMap_congr hchar, List.map_eq_flatMap]

/-! ### Length in lower case -/

theorem length_lowerChar_pos (c : Char) : 0 < (lowerChar c).length := by
  unfold lowerChar
  split_ifs <;> simp

/-- The final sigma is as long as the one that stands elsewhere, so every character counts for itself. -/
theorem length_lowerAfter (before cs : List Char) : (lowerAfter before cs).length = (cs.flatMap lowerChar).length := by
  induction cs generalizing before with
  | nil => rfl
  | cons c rest ih =>
    unfold lowerAfter
    split
    · rename_i hsigma
      have hone : (lowerChar c).length = 1 := by simp [lowerChar, hsigma.1]
      rw [List.length_cons, ih, List.flatMap_cons, List.length_append, hone, Nat.add_comm]
    · rw [List.length_append, ih, List.flatMap_cons, List.length_append]

/-- Lowering makes no text shorter. -/
theorem length_le_length_lowerAfter (before cs : List Char) : cs.length ≤ (lowerAfter before cs).length := by
  rw [length_lowerAfter]
  induction cs with
  | nil => simp
  | cons c rest ih =>
    have hpos := length_lowerChar_pos c
    rw [List.flatMap_cons, List.length_append, List.length_cons]
    omega

theorem lower_ne_empty {s : String} (hs : s ≠ "") : lower s ≠ "" := by
  intro hempty
  have hlength := length_le_length_lowerAfter [] s.toList
  have hnone : lowerAfter [] s.toList = [] := by simpa [lower] using congrArg String.toList hempty
  rw [hnone, List.length_nil, Nat.le_zero, List.length_eq_zero_iff] at hlength
  exact hs (String.toList_eq_nil_iff.mp hlength)

/-- Whatever stands around a part of a text makes the text longer, in lower case as well. -/
theorem eq_of_infix_of_lower_eq {part cs : List Char} (hpart : part <:+: cs)
    (hsame : lowerAfter [] part = lowerAfter [] cs) : part = cs := by
  obtain ⟨left, right, rfl⟩ := hpart
  have hlength := congrArg List.length hsame
  simp only [length_lowerAfter, List.flatMap_append, List.length_append] at hlength
  simp only [← length_lowerAfter []] at hlength
  have hleft : left = [] :=
    List.eq_nil_of_length_eq_zero (by have := length_le_length_lowerAfter [] left; omega)
  have hright : right = [] :=
    List.eq_nil_of_length_eq_zero (by have := length_le_length_lowerAfter [] right; omega)
  simp [hleft, hright]

/-! ### Marks -/

/-- A character of ASCII that is no word character. -/
def IsMark (c : Char) : Prop := c.toNat < 128 ∧ isWordChar c = false

instance : DecidablePred IsMark := fun c ↦ inferInstanceAs (Decidable (c.toNat < 128 ∧ isWordChar c = false))

/-- A mark has no other small form. -/
theorem lowerChar_of_isMark {c : Char} (hmark : IsMark c) : lowerChar c = [c] := by
  obtain ⟨hascii, hword⟩ := hmark
  rw [isWordChar, if_pos hascii, Bool.or_eq_false_iff] at hword
  rw [lowerChar, if_pos hascii, toLower_of_not_isAlphanum hword.1]

/-- A mark at the end of a text stays there when white space is dropped before it and the text is put into lower case. -/
theorem isMark_getLast {front : List Char} (hmark : ∀ c ∈ front.getLast?, IsMark c) :
    ∀ c ∈ ((front.dropWhile isBlank).flatMap lowerChar).getLast?, IsMark c := by
  obtain ⟨dropped, hdropped⟩ := List.dropWhile_suffix isBlank (l := front)
  rcases List.eq_nil_or_concat (front.dropWhile isBlank) with hkept | ⟨kept, last, hkept⟩
  · simp [hkept]
  · have hlast : IsMark last := hmark last (by rw [← hdropped, hkept]; simp)
    simpa [hkept, lowerChar_of_isMark hlast] using hlast

/-- A mark at the beginning of a text stays there when white space is dropped behind it and the text is put into lower
case. -/
theorem isMark_head {back : List Char} (hmark : ∀ c ∈ back.head?, IsMark c) :
    ∀ c ∈ ((dropEndWhile isBlank back).flatMap lowerChar).head?, IsMark c := by
  obtain ⟨dropped, hdropped⟩ := dropEndWhile_prefix_self isBlank back
  cases hkept : dropEndWhile isBlank back with
  | nil => simp
  | cons first kept =>
    have hfirst : IsMark first := hmark first (by rw [← hdropped, hkept]; simp)
    simpa [lowerChar_of_isMark hfirst] using hfirst

end WorkerAdvisor.Text
