import Mathlib.Data.List.TakeWhile
import WorkerAdvisor.Proofs.Yaml.Place
import WorkerAdvisor.Proofs.Yaml.SingleQuoted
import WorkerAdvisor.Yaml.Token.Plain

/-!
Reading what was written plainly.

A plain text is words with spaces between them. A word has no place inside where a plain scalar must stop
(`part_glyphs`), and what is written between two words, spaces or a line end with indentation, is read as the
spaces (`between_spaces`). After the last word comes a line that is not indented far enough to belong to the scalar
(`Dedents`), so the scalar ends there (`IsPlain.readsPlain`).
-/

set_option autoImplicit false

namespace WorkerAdvisor.Yaml.ScalarStyle

open Plain

/-! ### Words -/

theorem stopsAt_glyphs (c : Char) (p : Place) (rest : List Char) :
    stopsAt false c (glyphs p rest) = (isGap c || (c == ':' && rest.head?.all isGap)) := by
  simp [stopsAt, atGap_glyphs]

/-- A word is read as a whole up to the place where a plain scalar must stop. -/
theorem part_glyphs (p : Place) {word rest : List Char}
    (hword : ∀ before c after, word = before ++ c :: after →
      isGap c = false ∧ (c = ':' → (after ++ rest).head?.all isGap = false))
    (hstop : ∀ q, part false (glyphs q rest) = ([], glyphs q rest)) :
    part false (glyphs p (word ++ rest)) = (word, glyphs (p.after word) rest) := by
  induction word generalizing p with
  | nil => exact hstop p
  | cons c word ih =>
    obtain ⟨hgap, hcolon⟩ := hword [] c word rfl
    have hgoes : stopsAt false c (glyphs (p.next c) (word ++ rest)) = false := by
      rw [stopsAt_glyphs, hgap, Bool.false_or, Bool.and_eq_false_iff, beq_eq_false_iff_ne]
      by_cases hc : c = ':'
      · exact .inr (hcolon hc)
      · exact .inl hc
    rw [List.cons_append, glyphs_cons, part, hgoes,
      ih (p.next c) fun before d after heq ↦ hword (c :: before) d after (by rw [heq, List.cons_append])]
    rfl

/-- A part ends before a space or a line end. -/
theorem part_of_gap (p : Place) {c : Char} (hgap : isGap c = true) (rest : List Char) :
    part false (glyphs p (c :: rest)) = ([], glyphs p (c :: rest)) := by
  rw [glyphs_cons, part, stopsAt, hgap]
  rfl

/-- A part ends before a colon that is followed by a gap. -/
theorem part_of_colon (p : Place) {rest : List Char} (hgap : rest.head?.all isGap = true) :
    part false (glyphs p (':' :: rest)) = ([], glyphs p (':' :: rest)) := by
  rw [glyphs_cons, part, stopsAt_glyphs, hgap]
  rfl

/-! ### What stands after a word -/

/-- Whether a text is empty, or begins with a line that is indented by fewer columns than `limit` and whose first
characters are neither a comment nor the mark of a document's end. -/
def Dedents (limit : Nat) (cs : List Char) : Prop :=
  cs = [] ∨ ∃ width c rest, cs = List.replicate width ' ' ++ c :: rest ∧ width < limit ∧ isGap c = false ∧
    c ≠ '#' ∧ (width = 0 → rest.head? = some ' ')

/-- A text that is indented by fewer columns than `limit` is so for every larger limit. -/
theorem Dedents.mono {limit limit' : Nat} {cs : List Char} (hdedents : Dedents limit cs) (hle : limit ≤ limit') :
    Dedents limit' cs := by
  rcases hdedents with rfl | ⟨width, c, rest, heq, hwidth, hc⟩
  · exact .inl rfl
  · exact .inr ⟨width, c, rest, heq, Nat.lt_of_lt_of_le hwidth hle, hc⟩

/-- The indentation of a line is skipped; no mark of a document begins there. -/
theorem breaks_replicate (atLineStart : Bool) (p : Place) (width : Nat) {c : Char} (hgap : isGap c = false)
    (rest : List Char) (hstart : atLineStart = true → width = 0 → rest.head? = some ' ') :
    breaks atLineStart (glyphs p (List.replicate width ' ' ++ c :: rest)) =
      (some [], glyphs (p.after (List.replicate width ' ')) (c :: rest)) := by
  induction width generalizing atLineStart p with
  | zero =>
    have hspace : c ≠ ' ' := ne_of_class isGap hgap rfl
    have hmarker : (atLineStart && atDocumentMarker (glyphs p (c :: rest))) = false := by
      cases atLineStart with
      | false => rfl
      | true =>
        obtain ⟨rest, rfl⟩ := List.head?_eq_some_iff.mp (hstart rfl rfl)
        rw [Bool.true_and, glyphs_cons, glyphs_cons]
        exact atDocumentMarker_of_space rfl _
    rw [List.replicate_zero, List.nil_append, glyphs_cons] at *
    rw [breaks, hmarker]
    simp [hspace, isBreak_of_not_isGap hgap]
  | succ width ih =>
    have hothers := ih false (p.next ' ') fun heq ↦ absurd heq Bool.false_ne_true
    rw [List.replicate_succ, List.cons_append, glyphs_cons, breaks, atDocumentMarker_of_ne (by simp) (by simp),
      hothers]
    simp

/-- Of a text that is indented less only the spaces are skipped. -/
theorem breaks_dedents (p : Place) {limit : Nat} {tail : List Char} (htail : Dedents limit tail) :
    breaks true (glyphs p tail) = (some [], skipWhile (· == ' ') (glyphs p tail)) := by
  rcases htail with rfl | ⟨width, c, rest, rfl, -, hgap, -, hmark⟩
  · rfl
  · have hspace : c ≠ ' ' := ne_of_class isGap hgap rfl
    rw [breaks_replicate true p width hgap rest fun _ ↦ hmark, skipWhile_glyphs,
      List.takeWhile_append_of_pos (by simp), List.dropWhile_append_of_pos (by simp)]
    simp [hspace]

/-- After the last word the line end and the indentation of the next line are passed. -/
theorem between_lineEnd (p : Place) {limit : Nat} {tail : List Char} (htail : Dedents limit tail) :
    between (glyphs p ('\n' :: tail)) = ([' '], true, skipWhile (· == ' ') (glyphs (p.next '\n') tail)) := by
  unfold between
  rw [charsWhile_glyphs, skipWhile_glyphs]
  simp [isBreak, breaks_dedents (p.next '\n') htail, foldBreaks, breakMeaning]

/-- The next line does not belong to a scalar before it. -/
theorem endsHere_dedents (q : Place) (hcolumn : q.column = 0) {limit : Nat} {tail : List Char}
    (htail : Dedents limit tail) : endsHere false limit (skipWhile (· == ' ') (glyphs q tail)) = true := by
  rcases htail with rfl | ⟨width, c, rest, rfl, hwidth, hgap, -, -⟩
  · rfl
  · have hspace : c ≠ ' ' := ne_of_class isGap hgap rfl
    have hplace : (q.after (List.replicate width ' ')).column = width := by
      rw [Place.after_of_narrow q (by simp [isBreak, byteOrderMark]), hcolumn]
      simp
    rw [skipWhile_glyphs, List.takeWhile_append_of_pos (by simp), List.dropWhile_append_of_pos (by simp)]
    simp [hspace, endsHere, hplace, hwidth]

/-! ### Spaces between words -/

/-- Whether some characters are what is written for a row of spaces: the spaces, or for a single one a new line. -/
def IsWrittenGap (spaces gap : List Char) : Prop :=
  gap = spaces ∨ spaces = [' '] ∧ gap = newLine

/-- Spaces that are not folded are written as they are. -/
theorem plainFrom_unfolded (column count : Nat) (rest : List Char) :
    plainFrom column false (List.replicate count ' ' ++ rest) =
      List.replicate count ' ' ++ plainFrom (column + count) false rest := by
  induction count generalizing column with
  | zero => rfl
  | succ count ih =>
    have hnext := ih (column + 1)
    rw [Nat.add_assoc, Nat.add_comm 1] at hnext
    simp [List.replicate_succ, plainFrom, isFold, hnext]

/-- Spaces between words are written as they are, or as a new line for a single one. -/
theorem plainFrom_spaces (column count : Nat) (rest : List Char) :
    ∃ gap column' mayFold, IsWrittenGap (List.replicate (count + 1) ' ') gap ∧
      plainFrom column true (List.replicate (count + 1) ' ' ++ rest) = gap ++ plainFrom column' mayFold rest := by
  have hunfolded := plainFrom_unfolded (column + 1) count rest
  cases count with
  | zero =>
    by_cases hfold : (isFold true rest && width < column) = true
    · exact ⟨newLine, indent, true, .inr ⟨rfl, rfl⟩, by simp [plainFrom, hfold]⟩
    · exact ⟨[' '], column + 1, false, .inl rfl, by simp [plainFrom, hfold]⟩
  | succ count =>
    refine ⟨_, column + 1 + (count + 1), false, .inl rfl, ?_⟩
    simp only [List.replicate_succ, List.cons_append] at hunfolded ⊢
    rw [plainFrom, hunfolded]
    simp [isFold]

/-- What is written for spaces before a word is read as the spaces. -/
theorem between_spaces (p : Place) (count : Nat) {gap : List Char}
    (hgap : IsWrittenGap (List.replicate (count + 1) ' ') gap) {c : Char} (hc : isGap c = false) (rest : List Char) :
    ∃ passedBreak, between (glyphs p (gap ++ c :: rest)) =
      (List.replicate (count + 1) ' ', passedBreak, glyphs (p.after gap) (c :: rest)) := by
  have hspace : c ≠ ' ' := ne_of_class isGap hc rfl
  unfold between
  rw [charsWhile_glyphs, skipWhile_glyphs]
  rcases hgap with rfl | ⟨hspaces, rfl⟩
  · refine ⟨false, ?_⟩
    rw [List.takeWhile_append_of_pos (by simp), List.dropWhile_append_of_pos (by simp)]
    simp [hspace, isBreak_of_not_isGap hc]
  · refine ⟨true, ?_⟩
    have hbreaks := breaks_replicate true (p.next '\n') indent hc rest fun _ hzero ↦ absurd hzero (by decide)
    rw [hspaces]
    simp only [glyphs_cons] at hbreaks
    simp [newLine, isBreak, hbreaks, foldBreaks, breakMeaning]

/-- After what is written for spaces, the column is as far as before, or that of the indentation. -/
theorem le_column_after (p : Place) {limit count : Nat} {gap : List Char}
    (hgap : IsWrittenGap (List.replicate count ' ') gap) (hcolumn : limit ≤ p.column) (hindent : limit ≤ indent) :
    limit ≤ (p.after gap).column := by
  rcases hgap with rfl | ⟨-, rfl⟩
  · rw [Place.after_of_narrow p (by simp [isBreak, byteOrderMark])]
    exact Nat.le_add_right_of_le hcolumn
  · rw [newLine, Place.after_cons, Place.after_of_narrow _ (by simp [isBreak, byteOrderMark])]
    simpa [Place.next, isBreak] using hindent

/-! ### Plain texts -/

/-- Whether a text is made of words that can be written plainly, with spaces between them. -/
structure IsPlain (cs : List Char) : Prop where
  chars : ∀ c ∈ cs, isSpecial c = false ∧ isBreak c = false
  goesOn : hasInnerIndicator cs = false
  starts : cs.head?.any (· != ' ') = true
  ends : cs.getLast?.any (· != ' ') = true

theorem hasInnerIndicator_append {before after : List Char} (hnone : hasInnerIndicator (before ++ after) = false) :
    hasInnerIndicator after = false := by
  induction before with
  | nil => exact hnone
  | cons c before ih =>
    simp only [List.cons_append, hasInnerIndicator, Bool.or_eq_false_iff] at hnone
    exact ih hnone.2

/-- What follows spaces in a plain text is a plain text, and no comment. -/
theorem IsPlain.after_spaces {word rest : List Char} {count : Nat}
    (hplain : IsPlain (word ++ (List.replicate (count + 1) ' ' ++ rest)))
    (hhead : rest.head? ≠ some ' ') : IsPlain rest ∧ rest.head? ≠ some '#' := by
  have hinner : hasInnerIndicator (' ' :: rest) = false := by
    have hgoesOn := hplain.goesOn
    rw [List.replicate_succ', List.append_assoc, ← List.append_assoc] at hgoesOn
    exact hasInnerIndicator_append hgoesOn
  have hends : rest.getLast?.any (· != ' ') = true := by
    have hends := hplain.ends
    cases rest with
    | nil => rw [List.replicate_succ', List.append_nil, ← List.append_assoc] at hends; simp at hends
    | cons c rest =>
      have hlast := List.getLast?_eq_some_getLast (l := c :: rest) (by simp)
      rw [hlast]
      simpa only [List.getLast?_append, hlast, Option.some_or] using hends
  simp only [hasInnerIndicator, Bool.or_eq_false_iff, Bool.and_eq_false_iff] at hinner
  refine ⟨⟨fun c hc ↦ hplain.chars c (by simp [hc]), hinner.2, ?_, hends⟩, fun heq ↦ ?_⟩
  · cases rest with
    | nil => cases hends
    | cons c rest => simpa using hhead
  · simp [heq, separates, isGap, isSpaceOrTab] at hinner

/-- A plain text is one word, or a word and spaces before another plain text. -/
theorem IsPlain.split {cs : List Char} (hplain : IsPlain cs) :
    (∀ c ∈ cs, c ≠ ' ') ∨ ∃ word count rest, cs = word ++ (List.replicate (count + 1) ' ' ++ rest) ∧ word ≠ [] ∧
      (∀ c ∈ word, c ≠ ' ') ∧ IsPlain rest ∧ rest.head? ≠ some '#' := by
  have hsplit := List.takeWhile_append_dropWhile (p := (· != ' ')) (l := cs)
  have hword : ∀ c ∈ cs.takeWhile (· != ' '), c ≠ ' ' := by
    intro c hc
    simpa using List.mem_takeWhile_imp hc
  cases hafter : cs.dropWhile (· != ' ') with
  | nil =>
    rw [hafter, List.append_nil] at hsplit
    exact .inl fun c hc ↦ hword c (by rwa [hsplit])
  | cons d after =>
    have hd : d = ' ' := by
      have hhead := List.head?_dropWhile_not (· != ' ') cs
      simpa [hafter] using hhead
    subst hd
    have hspaces : after.takeWhile (· == ' ') = List.replicate (after.takeWhile (· == ' ')).length ' ' :=
      List.eq_replicate_iff.mpr ⟨rfl, fun c hc ↦ by simpa using List.mem_takeWhile_imp hc⟩
    have hhead : (after.dropWhile (· == ' ')).head? ≠ some ' ' := by
      intro heq
      have hnot := List.head?_dropWhile_not (· == ' ') after
      simp [heq] at hnot
    have hcs : cs = cs.takeWhile (· != ' ') ++
        (List.replicate ((after.takeWhile (· == ' ')).length + 1) ' ' ++ after.dropWhile (· == ' ')) := by
      rw [List.replicate_succ, ← hspaces, List.cons_append, List.takeWhile_append_dropWhile, ← hafter, hsplit]
    refine .inr ⟨_, _, _, hcs, fun heq ↦ ?_, hword, IsPlain.after_spaces (hcs ▸ hplain) hhead⟩
    have hstarts := hplain.starts
    rw [hcs, heq] at hstarts
    simp [List.replicate_succ] at hstarts

/-- A text that fits is a plain text, and can begin a plain scalar. -/
theorem isPlain_of_fitsPlain {cs : List Char} (hfits : fitsPlain cs = true) :
    IsPlain cs ∧ ∃ c rest, cs = c :: rest ∧ isFirstIndicator c = false ∧
      (c = '-' ∨ c = '?' ∨ c = ':' → separatorFollows rest = false) := by
  simp only [fitsPlain, fitsSingle, Bool.and_eq_true, Bool.not_eq_true', beq_iff_eq] at hfits
  obtain ⟨⟨⟨⟨⟨⟨hspecial, -⟩, -⟩, hbreak⟩, hend⟩, hindicator⟩, hform⟩ := hfits
  cases cs with
  | nil => exact absurd hform (by decide)
  | cons c rest =>
    simp only [hasIndicator, Bool.or_eq_false_iff] at hindicator
    obtain ⟨⟨-, hfirst, hmark⟩, hinner⟩ := hindicator
    have hcolon := hinner
    simp only [hasInnerIndicator, Bool.or_eq_false_iff] at hcolon
    have hlast := List.getLast?_eq_some_getLast (l := c :: rest) (by simp)
    simp only [hasAtEnd, hlast, List.head?_cons, Option.any_some, Bool.or_eq_false_iff, beq_eq_false_iff_ne] at hend
    refine ⟨⟨fun d hd ↦ ⟨?_, ?_⟩, hinner, by simp [hend.1], by simp [hlast, hend.2]⟩, c, rest, rfl, hfirst, ?_⟩
    · simpa using List.any_eq_false.mp hspecial d hd
    · simpa using List.any_eq_false.mp hbreak d hd
    · rintro (rfl | rfl | rfl)
      · simpa using hmark
      · simpa using hmark
      · simpa using hcolon.1.1

/-! ### What is read -/

/-- A word is written as it is. -/
theorem plainFrom_word (column : Nat) (mayFold : Bool) {word : List Char} (hne : word ≠ [])
    (hword : ∀ c ∈ word, c ≠ ' ') (rest : List Char) :
    plainFrom column mayFold (word ++ rest) = word ++ plainFrom (column + word.length) true rest := by
  induction word generalizing column mayFold with
  | nil => exact absurd rfl hne
  | cons c word ih =>
    have hc : c ≠ ' ' := hword c List.mem_cons_self
    simp only [List.cons_append, plainFrom, hc, if_false, List.length_cons]
    cases word with
    | nil => rfl
    | cons d word =>
      rw [ih (column + 1) true (by simp) fun e he ↦ hword e (List.mem_cons_of_mem c he)]
      simp only [List.length_cons, Nat.add_assoc, Nat.add_comm 1]

/-- The first word of a plain text is read up to the gap that is written after it. -/
theorem IsPlain.part_word {word rest : List Char} (hplain : IsPlain (word ++ rest)) (hword : ∀ c ∈ word, c ≠ ' ')
    (hrest : rest.head?.all separates = true) (p : Place) {written : List Char}
    (hwritten : written.head?.any isGap = true) :
    part false (glyphs p (word ++ written)) = (word, glyphs (p.after word) written) := by
  have hgap : ∀ c ∈ word, isGap c = false := by
    intro c hc
    obtain ⟨hspecial, hbreak⟩ := hplain.chars c (by simp [hc])
    exact isGap_of_not_isSpecial hspecial (hword c hc) hbreak
  refine part_glyphs p (fun before c after heq ↦ ⟨hgap c (by simp [heq]), fun hc ↦ ?_⟩) fun q ↦ ?_
  · -- The colon is followed by a character of the same word, since no separator may follow it.
    cases after with
    | nil =>
      have hgoesOn := hplain.goesOn
      rw [heq, List.append_assoc] at hgoesOn
      have hinner := hasInnerIndicator_append hgoesOn
      have hseparator : separatorFollows rest = true := by
        cases rest with
        | nil => rfl
        | cons d rest => simpa [separatorFollows] using hrest
      simp [hasInnerIndicator, hc, hseparator] at hinner
    | cons d after => simpa using hgap d (by simp [heq])
  · cases written with
    | nil => cases hwritten
    | cons d written => exact part_of_gap q (by simpa using hwritten) written

/-- A scalar ends with a word if it could not go on after what follows the word. -/
theorem read_last {inFlow passedBreak : Bool} {limit steps : Nat} {pending chars gap : List Char}
    {rest afterWord next : List Glyph} (hne : chars ≠ []) (hpart : part inFlow rest = (chars, afterWord))
    (hbetween : between afterWord = (gap, passedBreak, next))
    (hends : (gap.isEmpty || endsHere inFlow limit next) = true) :
    Plain.read inFlow limit (steps + 1) pending rest = (pending ++ chars, passedBreak, next) := by
  cases chars with
  | nil => exact absurd rfl hne
  | cons c chars => simp only [Plain.read, hpart, hbetween, hends, if_true]

/-- A scalar goes on after a word with what is read behind the gap. -/
theorem read_more {inFlow passedBreak passedLater : Bool} {limit steps : Nat} (pending : List Char)
    {chars gap more : List Char} {rest afterWord next left : List Glyph} (hne : chars ≠ [])
    (hpart : part inFlow rest = (chars, afterWord))
    (hbetween : between afterWord = (gap, passedBreak, next)) (hgap : gap ≠ [])
    (hends : endsHere inFlow limit next = false)
    (hmore : Plain.read inFlow limit steps gap next = (gap ++ more, passedLater, left)) :
    Plain.read inFlow limit (steps + 1) pending rest = (pending ++ chars ++ (gap ++ more), passedLater, left) := by
  cases chars with
  | nil => exact absurd rfl hne
  | cons c chars =>
    cases gap with
    | nil => exact absurd rfl hgap
    | cons d gap => simp [Plain.read, hpart, hbetween, hends, hmore]

/-- The start of what is written for a plain text. -/
theorem IsPlain.head_plainFrom {cs : List Char} (hplain : IsPlain cs) (column : Nat) (mayFold : Bool) :
    ∃ c rest, cs = c :: rest ∧ isGap c = false ∧
      plainFrom column mayFold cs = c :: plainFrom (column + 1) true rest := by
  cases cs with
  | nil => cases hplain.starts
  | cons c rest =>
    have hspace : c ≠ ' ' := by simpa using hplain.starts
    obtain ⟨hspecial, hbreak⟩ := hplain.chars c List.mem_cons_self
    exact ⟨c, rest, rfl, isGap_of_not_isSpecial hspecial hspace hbreak, by simp [plainFrom, hspace]⟩

/-- What is written for a text that begins with no separator begins with none. -/
theorem head_plainFrom_of_followed (column : Nat) (mayFold : Bool) {cs : List Char}
    (hfollowed : separatorFollows cs = false) (tail : List Char) :
    (plainFrom column mayFold cs ++ tail).head?.all isGap = false := by
  cases cs with
  | nil => cases hfollowed
  | cons c rest =>
    have hgap : isGap c = false := by
      simp only [separatorFollows, separates, Bool.or_eq_false_iff] at hfollowed
      exact hfollowed.1.1
    have hspace : c ≠ ' ' := ne_of_class isGap hgap rfl
    simp [plainFrom, hspace, hgap]

/-- What is written for a text is no shorter than the text. -/
theorem length_le_plainFrom (column : Nat) (mayFold : Bool) (cs : List Char) :
    cs.length ≤ (plainFrom column mayFold cs).length := by
  induction cs generalizing column mayFold with
  | nil => exact Nat.le_refl _
  | cons c rest ih =>
    unfold plainFrom
    split
    · split
      · have hrest := ih indent true
        simp only [newLine, List.length_cons, List.length_append]
        omega
      · exact Nat.succ_le_succ (ih ..)
    · exact Nat.succ_le_succ (ih ..)

theorem IsPlain.le_column_after {word rest : List Char} (hplain : IsPlain (word ++ rest)) (p : Place) {limit : Nat}
    (hcolumn : limit ≤ p.column) : limit ≤ (p.after word).column := by
  rw [Place.after_of_narrow p fun c hc ↦ ?_]
  · exact Nat.le_add_right_of_le hcolumn
  · obtain ⟨hspecial, hbreak⟩ := hplain.chars c (by simp [hc])
    exact ⟨hbreak, ne_of_class isSpecial hspecial (by decide)⟩

/-- Whether a text before a line that does not belong to it, written plainly from any column on, is read as it is up to
that line, in this number of steps and at any place from the column `limit` on. -/
def ReadsPlain (limit : Nat) (tail : List Char) (steps : Nat) (cs : List Char) : Prop :=
  ∀ p : Place, limit ≤ p.column → ∀ (column : Nat) (mayFold : Bool) (pending : List Char),
    Plain.read false limit steps pending (glyphs p (plainFrom column mayFold cs ++ '\n' :: tail)) =
      (pending ++ cs, true,
        skipWhile (· == ' ') (glyphs (p.after (plainFrom column mayFold cs ++ ['\n'])) tail))

variable {limit : Nat} {tail : List Char}

/-- The last word of a text is read. -/
theorem IsPlain.readsPlain_lastWord {cs : List Char} (hplain : IsPlain cs) (hword : ∀ c ∈ cs, c ≠ ' ')
    (htail : Dedents limit tail) (steps : Nat) : ReadsPlain limit tail (steps + 1) cs := by
  intro p _ column mayFold pending
  have hne : cs ≠ [] := by
    rintro rfl
    cases hplain.starts
  have hwhole : IsPlain (cs ++ []) := by rwa [List.append_nil]
  have hlineEnd : ('\n' :: tail).head?.any isGap = true := rfl
  have hpart := hwhole.part_word hword rfl p hlineEnd
  have hwritten := plainFrom_word column mayFold hne hword []
  rw [List.append_nil, plainFrom, List.append_nil] at hwritten
  rw [hwritten, Place.after_append]
  exact read_last hne hpart (between_lineEnd _ htail) (endsHere_dedents _ rfl htail)

/-- A word and the spaces after it, folded or not, are read if the rest of the text is. -/
theorem IsPlain.readsPlain_word {word rest : List Char} {count steps : Nat}
    (hplain : IsPlain (word ++ (List.replicate (count + 1) ' ' ++ rest))) (hne : word ≠ [])
    (hword : ∀ c ∈ word, c ≠ ' ') (hrest : IsPlain rest) (hcomment : rest.head? ≠ some '#') (hindent : limit ≤ indent)
    (hreads : ReadsPlain limit tail steps rest) :
    ReadsPlain limit tail (steps + 1) (word ++ (List.replicate (count + 1) ' ' ++ rest)) := by
  intro p hcolumn column mayFold pending
  obtain ⟨gap, column', mayFold', hgap, hspaces⟩ := plainFrom_spaces (column + word.length) count rest
  obtain ⟨c, others, hothers, hc, hrestWritten⟩ := hrest.head_plainFrom column' mayFold'
  have hhead : (gap ++ (plainFrom column' mayFold' rest ++ '\n' :: tail)).head?.any isGap = true := by
    rcases hgap with rfl | ⟨-, rfl⟩ <;> simp [List.replicate_succ, newLine, isGap, isSpaceOrTab, isBreak]
  have hpart := hplain.part_word hword (by simp [List.replicate_succ, separates, isGap, isSpaceOrTab]) p hhead
  have hplace := ScalarStyle.le_column_after (p.after word) hgap (hplain.le_column_after p hcolumn) hindent
  have hmore := hreads ((p.after word).after gap) hplace column' mayFold' (List.replicate (count + 1) ' ')
  obtain ⟨passedBreak, hbetween⟩ := between_spaces (p.after word) count hgap hc
    (plainFrom (column' + 1) true others ++ '\n' :: tail)
  rw [← List.cons_append, ← hrestWritten] at hbetween
  have hends : endsHere false limit (glyphs ((p.after word).after gap)
      (plainFrom column' mayFold' rest ++ '\n' :: tail)) = false := by
    have hnoComment : c ≠ '#' := by
      rintro rfl
      exact hcomment (by rw [hothers, List.head?_cons])
    simp [hrestWritten, endsHere, hnoComment, hplace]
  have hread := read_more pending hne hpart hbetween (by simp) hends hmore
  rw [plainFrom_word column mayFold hne hword, hspaces, List.append_assoc, List.append_assoc, hread]
  simp

/-- A plain text is read as it is, up to the line after it.
Assumes: its lines are indented as far as `limit`, and the line after it is not. -/
theorem IsPlain.readsPlain (hindent : limit ≤ indent) (htail : Dedents limit tail) {cs : List Char}
    (hplain : IsPlain cs) {steps : Nat} (hsteps : cs.length ≤ steps) : ReadsPlain limit tail steps cs := by
  induction steps generalizing cs with
  | zero =>
    have hstarts := hplain.starts
    rw [List.eq_nil_of_length_eq_zero (Nat.le_zero.mp hsteps)] at hstarts
    cases hstarts
  | succ steps ih =>
    rcases hplain.split with hword | ⟨word, count, rest, rfl, hne, hword, hrest, hcomment⟩
    · exact hplain.readsPlain_lastWord hword htail steps
    · have hshorter : rest.length ≤ steps := by
        simp only [List.length_append, List.length_replicate] at hsteps
        omega
      exact hplain.readsPlain_word hne hword hrest hcomment hindent (ih hrest hshorter)

end WorkerAdvisor.Yaml.ScalarStyle
