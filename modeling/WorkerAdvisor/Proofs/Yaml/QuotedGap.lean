import WorkerAdvisor.Proofs.Yaml.Place
import WorkerAdvisor.Yaml.Token.Quoted

/-!
Spaces and line ends inside quotes.

The readers of the two quoted styles treat spaces and line ends alike. Spaces that do not come before a line end are
kept, one by one (`Reads.space`). A row of line ends, with the indentation after it, is read as a whole
(`gap_row`).
-/

set_option autoImplicit false

namespace WorkerAdvisor.Yaml.Quoted

/-- A reader of what stands between quotes, given a bound on the number of its pieces. -/
abbrev Reader := Nat → List Glyph → Except Fault (List Char × List Glyph)

/-- Whether a reader that is given enough steps reads a content and leaves some glyphs. -/
def Reads (reader : Reader) (rest : List Glyph) (content : List Char) (left : List Glyph) : Prop :=
  ∀ steps, rest.length < steps → reader steps rest = .ok (content, left)

/-- Whether a reader takes spaces and line ends as one piece. -/
def TakesGaps (reader : Reader) : Prop :=
  ∀ steps glyph rest, isGap glyph.char = true →
    reader (steps + 1) (glyph :: rest) =
      match gap (glyph :: rest) with
      | .ok (chars, left) => prepend chars (reader steps left)
      | .error fault => .error fault

theorem takesGaps_readSingle : TakesGaps readSingle := by
  intro steps glyph rest hgap
  have hquote : glyph.char ≠ '\'' := (ne_of_class isGap rfl hgap).symm
  exact (if_neg hquote).trans (if_pos hgap)

theorem takesGaps_readDouble : TakesGaps readDouble := by
  intro steps glyph rest hgap
  have hquote : glyph.char ≠ '"' := (ne_of_class isGap rfl hgap).symm
  have hslash : glyph.char ≠ '\\' := (ne_of_class isGap rfl hgap).symm
  exact (if_neg hquote).trans ((if_neg hslash).trans (if_pos hgap))

variable {reader : Reader}

/-- A reader that reads one piece and then the rest reads both. -/
theorem Reads.piece {rest next left : List Glyph} {content : List Char} (chars : List Char)
    (hpiece : ∀ steps, reader (steps + 1) rest = prepend chars (reader steps next))
    (hshorter : next.length < rest.length) (hnext : Reads reader next content left) :
    Reads reader rest (chars ++ content) left := by
  intro steps hsteps
  rcases steps with _ | steps
  · omega
  · rw [hpiece, hnext steps (by omega)]
    rfl

/-! ### Spaces -/

/-- Whether the spaces at the start of a text, if any, come before a character that ends no line. -/
def SpacesEnd (cs : List Char) : Prop :=
  ∃ c rest, cs.dropWhile isSpaceOrTab = c :: rest ∧ isBreak c = false

theorem spacesEnd_space {cs : List Char} : SpacesEnd (' ' :: cs) ↔ SpacesEnd cs := Iff.rfl

/-- No spaces come before a character that is no gap. -/
theorem spacesEnd_of_not_isGap {c : Char} (hgap : isGap c = false) (rest : List Char) : SpacesEnd (c :: rest) :=
  ⟨c, rest, by simp [isSpaceOrTab_of_not_isGap hgap], isBreak_of_not_isGap hgap⟩

/-- Spaces that do not come before a line end are read as they are. -/
theorem gap_spaces (p : Place) {c : Char} {cs : List Char} (hspace : isSpaceOrTab c = true)
    (hend : SpacesEnd cs) :
    gap (glyphs p (c :: cs)) = .ok (c :: cs.takeWhile isSpaceOrTab,
      glyphs ((p.next c).after (cs.takeWhile isSpaceOrTab)) (cs.dropWhile isSpaceOrTab)) := by
  obtain ⟨d, rest, hrest, hbreak⟩ := hend
  unfold gap
  rw [charsWhile_glyphs, skipWhile_glyphs]
  simp [hspace, hrest, hbreak]

theorem prepend_cons (c : Char) (cs : List Char) (found : Except Fault (List Char × List Glyph)) :
    prepend (c :: cs) found = prepend [c] (prepend cs found) := by
  cases found <;> rfl

/-- A space is kept if the spaces that begin with it do not come before a line end. It is read in one piece with
those that follow, which would be a piece of their own without it. -/
theorem Reads.space (hreader : TakesGaps reader) {p : Place} {cs content : List Char} {left : List Glyph}
    (hend : SpacesEnd cs) (hrest : Reads reader (glyphs (p.next ' ') cs) content left) :
    Reads reader (glyphs p (' ' :: cs)) (' ' :: content) left := by
  intro steps hsteps
  simp only [length_glyphs, List.length_cons] at hsteps
  rcases steps with _ | steps
  · omega
  · have hpiece : reader (steps + 1) (glyphs p (' ' :: cs)) =
        prepend (' ' :: cs.takeWhile isSpaceOrTab)
          (reader steps (glyphs ((p.next ' ').after (cs.takeWhile isSpaceOrTab)) (cs.dropWhile isSpaceOrTab))) := by
      rw [glyphs_cons, hreader steps _ _ rfl, ← glyphs_cons, gap_spaces p rfl hend]
    have hsame : prepend (cs.takeWhile isSpaceOrTab)
        (reader steps (glyphs ((p.next ' ').after (cs.takeWhile isSpaceOrTab)) (cs.dropWhile isSpaceOrTab))) =
        .ok (content, left) := by
      cases cs with
      | nil => obtain ⟨_, _, hnil, _⟩ := hend; cases hnil
      | cons c cs =>
        cases hspace : isSpaceOrTab c with
        | false =>
          have hread := hrest steps (by simpa using hsteps)
          rw [List.takeWhile_cons_of_neg (by simp [hspace]), List.dropWhile_cons_of_neg (by simp [hspace]),
            Place.after_nil, hread]
          rfl
        | true =>
          have hend' : SpacesEnd cs := by simpa [SpacesEnd, hspace] using hend
          have hread := hrest (steps + 1) (by simp only [length_glyphs, List.length_cons] at hsteps ⊢; omega)
          rw [glyphs_cons, hreader steps _ _ (by simp [isGap, hspace]), ← glyphs_cons,
            gap_spaces _ hspace hend'] at hread
          simpa [hspace] using hread
    rw [hpiece, prepend_cons, hsame]
    rfl

/-! ### Line ends -/

/-- Indentation before another character is skipped. -/
theorem breaks_indentation (p : Place) (width : Nat) {c : Char} (hgap : isGap c = false) (rest : List Char) :
    breaks false (glyphs p (List.replicate width ' ' ++ c :: rest)) =
      .ok ([], glyphs (p.after (List.replicate width ' ')) (c :: rest)) := by
  induction width generalizing p with
  | zero => simp [breaks, isSpaceOrTab_of_not_isGap hgap, isBreak_of_not_isGap hgap]
  | succ width ih =>
    simp only [List.replicate_succ, List.cons_append, glyphs_cons, Place.after_cons] at ih ⊢
    rw [breaks, ih]
    rfl

/-- A row of line ends and the indentation after it stand for what the line ends mean. -/
theorem breaks_row (atLineStart : Bool) (p : Place) {row : List Char} (hrow : ∀ c ∈ row, isBreak c = true)
    {width : Nat} (hwidth : 0 < width) {c : Char} (hgap : isGap c = false) (rest : List Char) :
    breaks atLineStart (glyphs p (row ++ List.replicate width ' ' ++ c :: rest)) =
      .ok (row.map breakMeaning, glyphs (p.after (row ++ List.replicate width ' ')) (c :: rest)) := by
  induction row generalizing atLineStart p with
  | nil =>
    obtain ⟨width, rfl⟩ : ∃ less, width = less + 1 := ⟨width - 1, by omega⟩
    have hspaces := breaks_indentation (p.next ' ') width hgap rest
    simp only [List.nil_append, List.replicate_succ, List.cons_append, glyphs_cons, Place.after_cons,
      List.map_nil] at hspaces ⊢
    rw [breaks, atDocumentMarker_of_ne (by simp) (by simp), hspaces]
    simp [isSpaceOrTab]
  | cons d row ih =>
    have hbreak : isBreak d = true := hrow d List.mem_cons_self
    have hhyphen : d ≠ '-' := (ne_of_class isBreak rfl hbreak).symm
    have hpoint : d ≠ '.' := (ne_of_class isBreak rfl hbreak).symm
    have hothers := ih true (p.next d) fun e he ↦ hrow e (List.mem_cons_of_mem d he)
    simp only [List.cons_append, glyphs_cons, Place.after_cons, List.map_cons] at hothers ⊢
    rw [breaks, atDocumentMarker_of_ne hhyphen hpoint, hothers]
    simp [isSpaceOrTab_of_isBreak hbreak, hbreak]

/-- A line end, the row of line ends after it and the indentation of the next line stand for what they fold to. -/
theorem gap_row (p : Place) {first : Char} (hfirst : isBreak first = true) {row : List Char}
    (hrow : ∀ c ∈ row, isBreak c = true) {width : Nat} (hwidth : 0 < width) {c : Char} (hgap : isGap c = false)
    (rest : List Char) :
    gap (glyphs p (first :: (row ++ List.replicate width ' ' ++ c :: rest))) =
      .ok (foldBreaks first (row.map breakMeaning),
        glyphs ((p.next first).after (row ++ List.replicate width ' ')) (c :: rest)) := by
  have hspace := isSpaceOrTab_of_isBreak hfirst
  unfold gap
  rw [charsWhile_glyphs, skipWhile_glyphs, List.takeWhile_cons_of_neg (by simp [hspace]),
    List.dropWhile_cons_of_neg (by simp [hspace]), Place.after_nil, glyphs_cons]
  simp only [hfirst, if_true, breaks_row true (p.next first) hrow hwidth hgap rest]

/-- After a row of line ends, a reader goes on with the next line. -/
theorem Reads.row (hreader : TakesGaps reader) {p : Place} {first : Char} (hfirst : isBreak first = true)
    {row : List Char} (hrow : ∀ c ∈ row, isBreak c = true) {width : Nat} (hwidth : 0 < width)
    {next content : List Char} {left : List Glyph} (hnext : next.head?.any (!isGap ·) = true)
    (hrest : Reads reader (glyphs ((p.next first).after (row ++ List.replicate width ' ')) next) content left) :
    Reads reader (glyphs p (first :: (row ++ List.replicate width ' ' ++ next)))
      (foldBreaks first (row.map breakMeaning) ++ content) left := by
  cases next with
  | nil => cases hnext
  | cons c rest =>
    have hgap : isGap c = false := by simpa using hnext
    refine Reads.piece _ (fun steps ↦ ?_) (by simp; omega) hrest
    rw [glyphs_cons, hreader steps _ _ (isGap_of_isBreak hfirst), ← glyphs_cons,
      gap_row p hfirst hrow hwidth hgap]

end WorkerAdvisor.Yaml.Quoted
