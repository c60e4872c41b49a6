import Mathlib.Data.List.TakeWhile
import WorkerAdvisor.Proofs.Yaml.QuotedGap
import WorkerAdvisor.Proofs.Yaml.Reread

/-!
Reading what was written in single quotes.

The induction goes over the text that was written. A character is one step of it, and a row of line ends is
another, since the reader takes in the row and the indentation after it at once. What is read is what the text
rereads as (`readsBack`).
-/

set_option autoImplicit false

namespace WorkerAdvisor.Yaml.ScalarStyle

open Quoted

/-! ### Texts that single quotes can hold -/

/-- Two kinds of characters that never stand side by side do not do so in the rest of a text. -/
theorem hasAdjacent_cons {first second : Char → Bool} {c : Char} {rest : List Char}
    (hnone : hasAdjacent first second (c :: rest) = false) :
    (first c = true → rest.head?.any second = false) ∧ hasAdjacent first second rest = false := by
  cases rest with
  | nil => exact ⟨fun _ ↦ rfl, rfl⟩
  | cons d rest =>
    simp only [hasAdjacent, Bool.or_eq_false_iff, Bool.and_eq_false_iff] at hnone
    exact ⟨fun hc ↦ by simpa [hc] using hnone.1, hnone.2⟩

/-- What single quotes cannot hold is a special character, and a space beside a line end. -/
theorem fitsSingle_cons {c : Char} {rest : List Char} (hfits : fitsSingle (c :: rest) = true) :
    isSpecial c = false ∧ (c = ' ' → rest.head?.any isBreak = false) ∧
      (isBreak c = true → rest.head?.any (· == ' ') = false) ∧ fitsSingle rest = true := by
  simp only [fitsSingle, Bool.and_eq_true, Bool.not_eq_true', List.any_cons, Bool.or_eq_false_iff] at hfits ⊢
  obtain ⟨⟨⟨hspecial, hothers⟩, hbreakSpace⟩, hspaceBreak⟩ := hfits
  obtain ⟨hafterBreak, hbreakSpace'⟩ := hasAdjacent_cons hbreakSpace
  obtain ⟨hafterSpace, hspaceBreak'⟩ := hasAdjacent_cons hspaceBreak
  exact ⟨hspecial, fun hc ↦ hafterSpace (by simp [hc]), hafterBreak, ⟨hothers, hbreakSpace'⟩, hspaceBreak'⟩

theorem isGap_of_not_isSpecial {c : Char} (hspecial : isSpecial c = false) (hspace : c ≠ ' ')
    (hbreak : isBreak c = false) : isGap c = false := by
  have htab : c ≠ '\t' := ne_of_class isSpecial hspecial (by decide)
  simp [isGap, isSpaceOrTab, hspace, htab, hbreak]

/-- A text that fits single quotes does so without some characters at its start. -/
theorem fitsSingle_dropWhile (holds : Char → Bool) {cs : List Char} (hfits : fitsSingle cs = true) :
    fitsSingle (cs.dropWhile holds) = true := by
  induction cs with
  | nil => exact hfits
  | cons c cs ih =>
    rw [List.dropWhile_cons]
    split
    · exact ih (fitsSingle_cons hfits).2.2.2
    · exact hfits

/-- After a row of line ends comes neither a line end nor a space. -/
theorem head_after_row {c : Char} {rest : List Char} (hbreak : isBreak c = true)
    (hfits : fitsSingle (c :: rest) = true) :
    (rest.dropWhile isBreak).head?.any (fun d ↦ d == ' ' || isBreak d) = false := by
  induction rest generalizing c with
  | nil => rfl
  | cons d rest ih =>
    obtain ⟨-, -, hspace, hrest⟩ := fitsSingle_cons hfits
    rw [List.dropWhile_cons]
    split
    · rename_i hd
      exact ih hd hrest
    · rename_i hd
      simpa [hd] using hspace hbreak

/-! ### What is written -/

/-- The start of what is written for a text that begins with neither a space nor a line end, up to the quote. -/
theorem head_singleFrom (column : Nat) (mayFold afterBreak : Bool) {cs : List Char} (hfits : fitsSingle cs = true)
    (hhead : cs.head?.any (fun c ↦ c == ' ' || isBreak c) = false) (tail : List Char) :
    (singleFrom column mayFold afterBreak cs ++ '\'' :: tail).head?.any (!isGap ·) = true := by
  cases cs with
  | nil => rfl
  | cons c rest =>
    simp only [List.head?_cons, Option.any_some, Bool.or_eq_false_iff, beq_eq_false_iff_ne] at hhead
    have hgap := isGap_of_not_isSpecial (fitsSingle_cons hfits).1 hhead.1 hhead.2
    unfold singleFrom
    split
    · exact absurd ‹c = ' '› hhead.1
    · split
      · simp [hhead.2] at *
      · split
        · rfl
        · simp [hgap]

/-- A row of line ends is written as it is once the first of them is written, and indentation follows it. -/
theorem singleFrom_row (rest : List Char) :
    (if rest.head?.any isBreak then [] else List.replicate indent ' ') ++ singleFrom indent true true rest =
      rest.takeWhile isBreak ++ List.replicate indent ' ' ++
        singleFrom indent true false (rest.dropWhile isBreak) := by
  induction rest with
  | nil => rfl
  | cons c rest ih =>
    cases hbreak : isBreak c with
    | true =>
      have hspace : c ≠ ' ' := (ne_of_class isBreak rfl hbreak).symm
      simp only [List.append_assoc] at ih
      simp [singleFrom, hbreak, hspace, ih]
    | false => simp [singleFrom, hbreak]

/-- After a space that is not folded, the spaces of a text do not come before a line end. -/
theorem spacesEnd_singleFrom (column : Nat) {cs : List Char} (hfits : fitsSingle cs = true)
    (hhead : cs.head?.any isBreak = false) (tail : List Char) :
    SpacesEnd (singleFrom column false false cs ++ '\'' :: tail) := by
  induction cs generalizing column with
  | nil => exact spacesEnd_of_not_isGap rfl tail
  | cons c rest ih =>
    obtain ⟨hspecial, hspace, -, hrest⟩ := fitsSingle_cons hfits
    by_cases hc : c = ' '
    · simp only [singleFrom, hc, if_true, isFold, Bool.false_and, Bool.false_eq_true, if_false, List.cons_append]
      exact spacesEnd_space.mpr (ih (column + 1) hrest (hspace hc))
    · have hbreak : isBreak c = false := by simpa using hhead
      have hgap := isGap_of_not_isSpecial hspecial hc hbreak
      unfold singleFrom
      rw [if_neg hc, if_neg (by simp [hbreak])]
      split
      · exact spacesEnd_of_not_isGap rfl _
      · exact spacesEnd_of_not_isGap hgap _

/-- A row of line ends is written so that what it folds to is what it rereads as. -/
theorem singleFrom_break {c : Char} (hbreak : isBreak c = true) (rest : List Char) :
    ∃ row, (∀ d ∈ row, isBreak d = true) ∧
      foldBreaks c (row.map breakMeaning) = rowMeaning c (rest.takeWhile isBreak) ∧
      ∀ column mayFold, singleFrom column mayFold false (c :: rest) =
        c :: (row ++ List.replicate indent ' ' ++ singleFrom indent true false (rest.dropWhile isBreak)) := by
  have hrun : ∀ d ∈ rest.takeWhile isBreak, isBreak d = true := fun d hd ↦ List.mem_takeWhile_imp hd
  have hspace : c ≠ ' ' := (ne_of_class isBreak rfl hbreak).symm
  have hrow := singleFrom_row rest
  simp only [List.append_assoc] at hrow
  by_cases hfeed : c = '\n'
  · subst hfeed
    refine ⟨'\n' :: rest.takeWhile isBreak, List.forall_mem_cons.mpr ⟨rfl, hrun⟩, rfl, fun column mayFold ↦ ?_⟩
    simp [singleFrom, isBreak, hrow]
  · refine ⟨rest.takeWhile isBreak, hrun, ?_, fun column mayFold ↦ ?_⟩
    · by_cases hnext : c = nextLine
      · simp [foldBreaks, rowMeaning, hnext, breakMeaning, nextLine]
      · simp [foldBreaks, rowMeaning, hnext, breakMeaning_of_ne hnext, hfeed]
    · simp [singleFrom, hspace, hbreak, hfeed, hrow]

/-! ### What is read -/

/-- Whether a text that is written in single quotes before a tail is read back as what it rereads as. -/
def ReadsBack (tail cs : List Char) : Prop :=
  ∀ (p : Place) (column : Nat) (mayFold : Bool),
    Reads readSingle (glyphs p (singleFrom column mayFold false cs ++ '\'' :: tail)) (rereadFrom false cs)
      (glyphs (p.after (singleFrom column mayFold false cs ++ ['\''])) tail)

variable {tail : List Char}

theorem readsBack_nil (htail : tail.head? ≠ some '\'') : ReadsBack tail [] := by
  intro p column mayFold steps hsteps
  rcases steps with _ | steps
  · simp at hsteps
  · cases tail with
    | nil => rfl
    | cons c tail =>
      have hc : c ≠ '\'' := by simpa using htail
      simp [singleFrom, readSingle, rereadFrom, hc]

/-- A character that stands for itself is read back with what follows it. -/
theorem readsBack_char {c : Char} {rest : List Char} (hgap : isGap c = false) (hquote : c ≠ '\'')
    (hrest : ReadsBack tail rest) : ReadsBack tail (c :: rest) := by
  intro p column mayFold
  have hspace : c ≠ ' ' := ne_of_class isGap hgap rfl
  have hbreak := isBreak_of_not_isGap hgap
  have hread : Reads readSingle (glyphs p (c :: (singleFrom (column + 1) true false rest ++ '\'' :: tail)))
      ([c] ++ rereadFrom false rest) _ :=
    Reads.piece [c] (fun steps ↦ by simp [readSingle, hquote, hgap]) (by simp) (hrest (p.next c) (column + 1) true)
  simpa [singleFrom, hspace, hbreak, hquote, rereadFrom] using hread

/-- A quote, which is written twice, is read back with what follows it. -/
theorem readsBack_quote {rest : List Char} (hrest : ReadsBack tail rest) : ReadsBack tail ('\'' :: rest) := by
  intro p column mayFold
  have hread : Reads readSingle (glyphs p ('\'' :: '\'' :: (singleFrom (column + 2) true false rest ++ '\'' :: tail)))
      (['\''] ++ rereadFrom false rest) _ :=
    Reads.piece ['\''] (fun steps ↦ by simp [readSingle]) (by simp only [length_glyphs, List.length_cons]; omega)
      (hrest ((p.next '\'').next '\'') (column + 2) true)
  simpa [singleFrom, isBreak, rereadFrom] using hread

/-- A space is read back with what follows it, whether it is written as a space or as a line end. -/
theorem readsBack_space {rest : List Char} (hfits : fitsSingle (' ' :: rest) = true)
    (hrest : ReadsBack tail rest) : ReadsBack tail (' ' :: rest) := by
  intro p column mayFold
  obtain ⟨-, hbreak, -, hfitsRest⟩ := fitsSingle_cons hfits
  have hreread : rereadFrom false (' ' :: rest) = ' ' :: rereadFrom false rest := rfl
  by_cases hfold : (isFold mayFold rest && width < column) = true
  · have hhead : rest.head?.any (fun d ↦ d == ' ' || isBreak d) = false := by
      simp only [isFold, Bool.and_eq_true, bne_iff_ne] at hfold
      cases rest with
      | nil => rfl
      | cons d rest => simpa using And.intro (by simpa using hfold.1.2) (by simpa using hbreak rfl)
    have hfeed : foldBreaks '\n' [] = [' '] := rfl
    have hnewLine : isBreak '\n' = true := rfl
    have hindent : 0 < indent := by decide
    have hread := Reads.row (p := p) takesGaps_readSingle hnewLine (fun _ hmem ↦ absurd hmem List.not_mem_nil) hindent
      (head_singleFrom indent true false hfitsRest hhead tail) (hrest _ indent true)
    simpa [singleFrom, hfold, newLine, hreread, hfeed] using hread
  · have hread := (hrest (p.next ' ') (column + 1) false).space takesGaps_readSingle
      (spacesEnd_singleFrom (column + 1) hfitsRest (hbreak rfl) tail)
    simpa [singleFrom, hfold, hreread] using hread

/-- A row of line ends is read back as what it rereads as, with what follows it. -/
theorem readsBack_row {c : Char} {rest : List Char} (hbreak : isBreak c = true)
    (hfits : fitsSingle (c :: rest) = true) (hrest : ReadsBack tail (rest.dropWhile isBreak)) :
    ReadsBack tail (c :: rest) := by
  intro p column mayFold
  obtain ⟨row, hrow, hfold, hwritten⟩ := singleFrom_break hbreak rest
  have hdrop := fitsSingle_dropWhile isBreak (fitsSingle_cons hfits).2.2.2
  have hindent : 0 < indent := by decide
  have hread := Reads.row (p := p) takesGaps_readSingle hbreak hrow hindent
    (head_singleFrom indent true false hdrop (head_after_row hbreak hfits) tail) (hrest _ indent true)
  rw [rereadFrom_break hbreak, hwritten, ← hfold]
  simpa using hread

/-- A text that is written in single quotes is read back as what it rereads as.
Assumes: single quotes can hold the text, and no quote follows the one that ends it. -/
theorem readsBack (htail : tail.head? ≠ some '\'') {cs : List Char} (hfits : fitsSingle cs = true) :
    ReadsBack tail cs := by
  -- A row of line ends is one piece, so the induction is on the length.
  induction hlength : cs.length using Nat.strong_induction_on generalizing cs with
  | _ length ih =>
    cases cs with
    | nil => exact readsBack_nil htail
    | cons c rest =>
      obtain ⟨hspecial, -, -, hrest⟩ := fitsSingle_cons hfits
      have hshorter : ∀ {ds : List Char}, ds.length ≤ rest.length → fitsSingle ds = true → ReadsBack tail ds :=
        fun hds hfitsDs ↦ ih _ (by simp only [List.length_cons] at hlength; omega) hfitsDs rfl
      by_cases hspace : c = ' '
      · subst hspace
        exact readsBack_space hfits (hshorter (Nat.le_refl _) hrest)
      · by_cases hbreak : isBreak c = true
        · exact readsBack_row hbreak hfits
            (hshorter (List.dropWhile_suffix _).length_le (fitsSingle_dropWhile isBreak hrest))
        · by_cases hquote : c = '\''
          · subst hquote
            exact readsBack_quote (hshorter (Nat.le_refl _) hrest)
          · have hgap := isGap_of_not_isSpecial hspecial hspace (by simpa using hbreak)
            exact readsBack_char hgap hquote (hshorter (Nat.le_refl _) hrest)

end WorkerAdvisor.Yaml.ScalarStyle
