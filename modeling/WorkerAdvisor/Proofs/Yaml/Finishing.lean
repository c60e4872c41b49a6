import WorkerAdvisor.Proofs.Yaml.Place
import WorkerAdvisor.Yaml.Token.Scan

/-!
What a reader of tokens ends with.

`Reading.Finishes r tokens` says that the reader, started in the state `r` with enough steps, ends with these
tokens. It is shown backwards: a state finishes with what the state after its next token finishes with
(`Finishes.step`). States that differ in what the next step undoes finish with the same tokens: in gaps before the
next token, in a candidate for a key that the next line gives up, and in a collection that the next line closes.
-/

set_option autoImplicit false

namespace WorkerAdvisor.Yaml.Reading

/-! ### Going to the next token -/

/-- Skipping what separates tokens leaves an end of the text. -/
theorem skipGap_suffix (inComment : Bool) (rest : List Glyph) : (skipGap inComment rest).2 <:+ rest := by
  induction rest generalizing inComment with
  | nil => exact List.suffix_rfl
  | cons glyph rest ih =>
    unfold skipGap
    split
    · exact (ih false).trans (List.suffix_cons ..)
    · split
      · exact (ih true).trans (List.suffix_cons ..)
      · split
        · exact (ih false).trans (List.suffix_cons ..)
        · split
          · exact (ih true).trans (List.suffix_cons ..)
          · exact List.suffix_rfl

theorem toToken_suffix (r : Reading) : r.toToken.rest <:+ r.rest := skipGap_suffix false r.rest

/-- To pass the spaces first makes no difference. -/
theorem skipGap_skipWhile (rest : List Glyph) :
    skipGap false (skipWhile (· == ' ') rest) = skipGap false rest := by
  induction rest with
  | nil => rfl
  | cons glyph rest ih =>
    simp only [skipWhile] at ih
    by_cases hspace : glyph.char = ' '
    · simp [skipWhile, skipGap, hspace, isBreak, ih]
    · simp [skipWhile, hspace]

/-- At the first character of a token there is nothing to skip. -/
theorem toToken_of_token {r : Reading} {glyph : Glyph} {rest : List Glyph} (hrest : r.rest = glyph :: rest)
    (hgap : isGap glyph.char = false) (hcomment : glyph.char ≠ '#') : r.toToken = r := by
  have hspace : glyph.char ≠ ' ' := ne_of_class isGap hgap rfl
  cases r
  simp only at hrest
  simp [toToken, hrest, skipGap, isBreak_of_not_isGap hgap, hspace, hcomment]

/-! ### Finishing -/

/-- Whether the reader, given enough steps, ends with some tokens, latest first. -/
def Finishes (r : Reading) (tokens : List Token) : Prop :=
  ∀ steps, r.toToken.rest.length < steps → (r.run steps).map Reading.tokens = .ok tokens

variable {r : Reading} {tokens : List Token}

/-- States that are at the same token finish with the same tokens. -/
theorem Finishes.of_toToken {other : Reading} (hfinishes : other.Finishes tokens)
    (heq : r.toToken = other.toToken) : r.Finishes tokens := by
  intro steps hsteps
  rw [heq] at hsteps
  have hother := hfinishes steps hsteps
  rcases steps with _ | steps
  · omega
  · unfold run at hother ⊢
    rwa [heq]

/-- A state finishes with what the state after its next token finishes with. -/
theorem Finishes.step {glyph : Glyph} {rest : List Glyph} {fresh next : Reading} (hnext : next.Finishes tokens)
    (hrest : r.toToken.rest = glyph :: rest) (hfresh : r.toToken.dropStale glyph = .ok fresh)
    (htoken : (fresh.closeTo glyph.column).token glyph rest = .ok next)
    (hshorter : next.rest.length ≤ rest.length) : r.Finishes tokens := by
  intro steps hsteps
  rw [hrest, List.length_cons] at hsteps
  rcases steps with _ | steps
  · omega
  · have hlength := (toToken_suffix next).length_le
    unfold run
    simp only [hrest, hfresh, htoken]
    exact hnext steps (by omega)

/-- A state finishes with what another one finishes with if the two are the same after what precedes the next
token, or the end, has been done. -/
theorem Finishes.of_next {other : Reading} (hfinishes : other.Finishes tokens)
    (hrest : r.toToken.rest = other.toToken.rest)
    (hend : ∀ done, other.toToken.closeAll.dropCandidate = .ok done →
      ∃ done', r.toToken.closeAll.dropCandidate = .ok done' ∧ done'.tokens = done.tokens)
    (hnext : ∀ glyph ∈ r.toToken.rest.head?, ∀ fresh, other.toToken.dropStale glyph = .ok fresh →
      ∃ fresh', r.toToken.dropStale glyph = .ok fresh' ∧
        fresh'.closeTo glyph.column = fresh.closeTo glyph.column) : r.Finishes tokens := by
  intro steps hsteps
  rw [hrest] at hsteps hnext
  have hother := hfinishes steps hsteps
  rcases steps with _ | steps
  · omega
  · unfold run at hother ⊢
    simp only [hrest]
    cases hleft : other.toToken.rest with
    | nil =>
      simp only [hleft] at hother ⊢
      cases hdone : other.toToken.closeAll.dropCandidate with
      | error fault => rw [hdone] at hother; cases hother
      | ok done =>
        obtain ⟨done', hdone', htokens⟩ := hend done hdone
        rw [hdone] at hother
        rw [hdone']
        simpa [Except.map, htokens] using hother
    | cons glyph rest =>
      simp only [hleft] at hother ⊢
      cases hfresh : other.toToken.dropStale glyph with
      | error fault => rw [hfresh] at hother; cases hother
      | ok fresh =>
        obtain ⟨fresh', hfresh', hclosed⟩ := hnext glyph (by rw [hleft]; rfl) fresh hfresh
        rw [hfresh] at hother
        rw [hfresh']
        simp only [hclosed] at hother ⊢
        cases htoken : (fresh.closeTo glyph.column).token glyph rest with
        | error fault => rw [htoken] at hother; cases hother
        | ok next =>
          rw [htoken] at hother
          exact hother

/-- At the end of the text the open collections are closed. -/
theorem finishes_of_end (hrest : r.toToken.rest = []) (houter : r.outer = []) (hcandidate : r.candidate = none) :
    r.Finishes (r.indents.map (fun _ ↦ Token.blockEnd) ++ r.tokens) := by
  intro steps hsteps
  rcases steps with _ | steps
  · omega
  · unfold run
    simp only [hrest]
    simp [toToken, closeAll, inFlow, houter, dropCandidate, hcandidate, Except.map]

/-- A candidate that need not be a key is given up on the next line. -/
theorem Finishes.giveUp {key : KeyCandidate} (hfinishes : Finishes { r with candidate := none } tokens)
    (hcandidate : r.candidate = some key) (houter : r.outer = []) (hrequired : key.required = false)
    (hline : ∀ glyph ∈ r.rest, key.glyph.line ≠ glyph.line) : r.Finishes tokens := by
  refine hfinishes.of_next rfl (fun done hdone ↦ ?_) fun glyph hglyph fresh hfresh ↦ ?_
  · refine ⟨done, ?_, rfl⟩
    rw [← hdone]
    simp [toToken, closeAll, inFlow, houter, dropCandidate, hcandidate, hrequired]
  · have hstale := hline glyph ((toToken_suffix r).mem (List.mem_of_mem_head? hglyph))
    refine ⟨fresh, ?_, rfl⟩
    rw [← hfresh]
    simp [toToken, dropStale, inFlow, houter, hcandidate, hrequired, hstale, KeyCandidate.at]

/-- A collection that is deeper than the next token is closed before it. -/
theorem Finishes.close {column : Nat} {indents : List Nat}
    (hfinishes : Finishes { r with indents, tokens := Token.blockEnd :: r.tokens } tokens)
    (hindents : r.indents = column :: indents) (houter : r.outer = []) (hcandidate : r.candidate = none)
    (hcolumn : ∀ glyph ∈ r.toToken.rest.head?, glyph.column < column) : r.Finishes tokens := by
  have hends : ∀ (columns : List Nat) (later : List Token), columns.map (fun _ ↦ Token.blockEnd) ++
      Token.blockEnd :: later = Token.blockEnd :: (columns.map (fun _ ↦ Token.blockEnd) ++ later) := by
    intro columns later
    induction columns with
    | nil => rfl
    | cons _ columns ih => exact congrArg (Token.blockEnd :: ·) ih
  refine hfinishes.of_next rfl (fun done hdone ↦ ?_) fun glyph hglyph fresh hfresh ↦ ?_
  · refine ⟨done, ?_, rfl⟩
    rw [← hdone]
    simp only [dropCandidate, closeAll, inFlow, toToken, hindents, houter, List.isEmpty_nil, Bool.not_true,
      Bool.not_false, Bool.and_true, hcandidate, Bool.false_eq_true, if_false, List.map_cons, List.cons_append, hends]
  · refine ⟨_, by simp [toToken, dropStale, houter, hcandidate, KeyCandidate.at]; rfl, ?_⟩
    have hdeeper := hcolumn glyph hglyph
    simp [toToken, dropStale, houter, hcandidate, KeyCandidate.at] at hfresh
    cases hfresh
    simp only [closeTo, inFlow, List.isEmpty_nil, Bool.not_true, Bool.false_eq_true, if_false, hindents, hdeeper,
      decide_true, List.takeWhile_cons_of_pos, List.map_cons, List.cons_append, List.dropWhile_cons_of_pos, houter,
      Bool.not_false, Bool.and_true, hends]

/-- The tokens of a text are those that the start of the text finishes with. -/
theorem Finishes.ofGlyphs {rest : List Glyph} (hfinishes : (start rest).Finishes tokens) :
    Token.ofGlyphs rest = tokens.reverse := by
  have hread := hfinishes (rest.length + 1) (Nat.lt_succ_of_le (toToken_suffix (start rest)).length_le)
  unfold Token.ofGlyphs
  cases hrun : (start rest).run (rest.length + 1) with
  | error failure => rw [hrun] at hread; cases hread
  | ok done =>
    rw [hrun] at hread
    simp only [Except.map, Except.ok.injEq] at hread
    simp [hread]

end WorkerAdvisor.Yaml.Reading
