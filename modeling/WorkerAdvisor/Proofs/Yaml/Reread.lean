import WorkerAdvisor.Yaml.ScalarStyle

/-!
What a text becomes when it is written as a scalar and read back.

Nothing happens to a text, unless it is written in single quotes and holds the character NEL. Within quotes a
row of line ends loses its first one when it is read, if that one means a line feed. A line feed at the start of a row
is written twice to make up for that, but NEL, which means a line feed too, is not. So NEL alone becomes a
space, and at the start of a row it is lost; the others become line feeds (`reread_eq_iff`).
-/

set_option autoImplicit false

namespace WorkerAdvisor.Yaml

/-- The line end that means a line feed and is another character. -/
def nextLine : Char := '\x85'

/-- What a text in single quotes is read back as. `afterBreak` tells whether a line end precedes. -/
def rereadFrom : (afterBreak : Bool) → List Char → List Char
  | _, [] => []
  | afterBreak, c :: rest =>
    if isBreak c then
      if c = nextLine ∧ !afterBreak then (if rest.head?.any isBreak then [] else [' ']) ++ rereadFrom true rest
      else breakMeaning c :: rereadFrom true rest
    else c :: rereadFrom false rest

/-- What a text that is written as a scalar is read back as. -/
def reread (content : String) : String :=
  if ScalarStyle.choose content.toList = .single then String.ofList (rereadFrom false content.toList) else content

/-- Whether a text is read back as another: it holds NEL, and single quotes can hold it, since it has no special
characters and no space stands beside a line end. -/
def IsLost (content : String) : Prop :=
  nextLine ∈ content.toList ∧ ScalarStyle.fitsSingle content.toList = true

instance (content : String) : Decidable (IsLost content) :=
  inferInstanceAs (Decidable (_ ∧ _))

/-- The plain style is chosen only for texts that fit it. -/
theorem fitsPlain_of_choose {cs : List Char} (hstyle : ScalarStyle.choose cs = .plain) :
    ScalarStyle.fitsPlain cs = true := by
  cases hplain : ScalarStyle.fitsPlain cs with
  | true => rfl
  | false => cases hsingle : ScalarStyle.fitsSingle cs <;> simp [ScalarStyle.choose, hplain, hsingle] at hstyle

/-- Single quotes are chosen only for texts that fit them. -/
theorem fitsSingle_of_choose {cs : List Char} (hstyle : ScalarStyle.choose cs = .single) :
    ScalarStyle.fitsSingle cs = true := by
  cases hsingle : ScalarStyle.fitsSingle cs with
  | true => rfl
  | false => cases hplain : ScalarStyle.fitsPlain cs <;> simp [ScalarStyle.choose, hplain, hsingle] at hstyle

/-! ### Rows of line ends -/

theorem isBreak_nextLine : isBreak nextLine = true := rfl

theorem breakMeaning_ne_nextLine (c : Char) : breakMeaning c ≠ nextLine := by
  unfold breakMeaning
  split
  · decide
  · assumption

theorem breakMeaning_of_ne {c : Char} (hne : c ≠ nextLine) : breakMeaning c = c := if_neg hne

/-- After a line end, a row of line ends is read back as what its line ends mean. -/
theorem rereadFrom_true (cs : List Char) :
    rereadFrom true cs = (cs.takeWhile isBreak).map breakMeaning ++ rereadFrom false (cs.dropWhile isBreak) := by
  induction cs with
  | nil => rfl
  | cons c cs ih =>
    cases hc : isBreak c with
    | true => simp [rereadFrom, hc, ih]
    | false => simp [rereadFrom, hc]

/-- What the first line end of a row and the others are read back as. -/
def rowMeaning (first : Char) (others : List Char) : List Char :=
  if first = nextLine then (if others.isEmpty then [' '] else others.map breakMeaning)
  else first :: others.map breakMeaning

theorem isEmpty_takeWhile_isBreak (cs : List Char) :
    (cs.takeWhile isBreak).isEmpty = !cs.head?.any isBreak := by
  cases cs with
  | nil => rfl
  | cons c cs => cases hc : isBreak c <;> simp [hc]

/-- A row of line ends is reread as a whole. -/
theorem rereadFrom_break {c : Char} (hbreak : isBreak c = true) (rest : List Char) :
    rereadFrom false (c :: rest) =
      rowMeaning c (rest.takeWhile isBreak) ++ rereadFrom false (rest.dropWhile isBreak) := by
  have hempty := isEmpty_takeWhile_isBreak rest
  by_cases hc : c = nextLine
  · cases hhead : rest.head?.any isBreak with
    | true => simp [rereadFrom, rowMeaning, isBreak_nextLine, hc, hhead, rereadFrom_true, hempty]
    | false =>
      have hnone : rest.takeWhile isBreak = [] := by simpa [hhead] using hempty
      have hdrop : rest.dropWhile isBreak = rest := by
        simpa [hnone] using List.takeWhile_append_dropWhile (p := isBreak) (l := rest)
      simp [rereadFrom, rowMeaning, isBreak_nextLine, hc, hhead, rereadFrom_true, hnone, hdrop]
  · simp [rereadFrom, rowMeaning, hbreak, hc, breakMeaning_of_ne hc, rereadFrom_true]

/-! ### Which texts are read back as they are -/

/-- No next-line control is ever read back. -/
theorem nextLine_notMem_rereadFrom (afterBreak : Bool) (cs : List Char) : nextLine ∉ rereadFrom afterBreak cs := by
  induction cs generalizing afterBreak with
  | nil => simp [rereadFrom]
  | cons c cs ih =>
    have hspace : nextLine ≠ ' ' := by decide
    have hmeaning : nextLine ≠ breakMeaning c := (breakMeaning_ne_nextLine c).symm
    unfold rereadFrom
    split
    · split
      · split <;> simp [ih, hspace]
      · simp [ih, hmeaning]
    · rename_i hbreak
      have hne : nextLine ≠ c := fun heq ↦ hbreak (heq ▸ isBreak_nextLine)
      simp [ih, hne]

/-- A text without next-line controls is read back as it is. -/
theorem rereadFrom_of_notMem (afterBreak : Bool) {cs : List Char} (hnone : nextLine ∉ cs) :
    rereadFrom afterBreak cs = cs := by
  induction cs generalizing afterBreak with
  | nil => rfl
  | cons c cs ih =>
    simp only [List.mem_cons, not_or] at hnone
    have hne : c ≠ nextLine := fun heq ↦ hnone.1 heq.symm
    simp [rereadFrom, hne, breakMeaning_of_ne hne, ih _ hnone.2]

/-- A text with a line end is not written plainly. -/
theorem fitsPlain_of_any_isBreak {cs : List Char} (hbreak : cs.any isBreak = true) :
    ScalarStyle.fitsPlain cs = false := by
  simp [ScalarStyle.fitsPlain, hbreak]

/-- A text is read back as it is exactly if it is not lost. -/
theorem reread_eq_iff (content : String) : reread content = content ↔ ¬ IsLost content := by
  by_cases hmem : nextLine ∈ content.toList
  · have hplain := fitsPlain_of_any_isBreak (List.any_eq_true.mpr ⟨_, hmem, isBreak_nextLine⟩)
    cases hsingle : ScalarStyle.fitsSingle content.toList with
    | false => simp [reread, ScalarStyle.choose, IsLost, hplain, hsingle]
    | true =>
      have hne : String.ofList (rereadFrom false content.toList) ≠ content := fun heq ↦
        nextLine_notMem_rereadFrom false content.toList (by rwa [← heq, String.toList_ofList] at hmem)
      simp [reread, ScalarStyle.choose, IsLost, hplain, hsingle, hmem, hne]
  · have hsame : rereadFrom false content.toList = content.toList := rereadFrom_of_notMem false hmem
    simp [reread, IsLost, hmem, hsame]

end WorkerAdvisor.Yaml
