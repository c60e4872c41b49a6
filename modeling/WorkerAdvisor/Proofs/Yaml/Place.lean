import WorkerAdvisor.Yaml.Glyph

/-!
Places in a text, and what the questions about glyphs say about the text that is left.

A reader of glyphs that stops inside a text has the glyphs of the rest of it left, counted from the place where it
stopped. So every statement about a reader is an equation between `glyphs place text` before and after.
-/

set_option autoImplicit false

namespace WorkerAdvisor.Yaml

/-- A place in a text. -/
structure Place where
  line : Nat
  column : Nat
  offset : Nat

namespace Place

def origin : Place := ⟨0, 0, 0⟩

/-- The place after a character. -/
def next (p : Place) (c : Char) : Place :=
  if isBreak c then ⟨p.line + 1, 0, p.offset + 1⟩
  else ⟨p.line, if c = byteOrderMark then p.column else p.column + 1, p.offset + 1⟩

/-- The place after some characters. -/
def after (p : Place) (cs : List Char) : Place := cs.foldl next p

@[simp] theorem after_nil (p : Place) : p.after [] = p := rfl

@[simp] theorem after_cons (p : Place) (c : Char) (cs : List Char) : p.after (c :: cs) = (p.next c).after cs := rfl

@[simp] theorem after_append (p : Place) (cs ds : List Char) : p.after (cs ++ ds) = (p.after cs).after ds :=
  List.foldl_append

/-- Behind a line end the next line begins. -/
theorem next_of_break (p : Place) {c : Char} (hbreak : isBreak c = true) :
    p.next c = ⟨p.line + 1, 0, p.offset + 1⟩ := by
  simp [next, hbreak]

/-- Behind any other character but the byte order mark the column is the next one. -/
theorem next_of_narrow (p : Place) {c : Char} (hbreak : isBreak c = false) (hmark : c ≠ byteOrderMark) :
    p.next c = ⟨p.line, p.column + 1, p.offset + 1⟩ := by
  simp [next, hbreak, hmark]

/-- Characters that end no line and take up a column each move the place along its line. -/
theorem after_of_narrow (p : Place) {cs : List Char}
    (hnarrow : ∀ c ∈ cs, isBreak c = false ∧ c ≠ byteOrderMark) :
    p.after cs = ⟨p.line, p.column + cs.length, p.offset + cs.length⟩ := by
  induction cs generalizing p with
  | nil => rfl
  | cons c cs ih =>
    obtain ⟨hbreak, hmark⟩ := hnarrow c List.mem_cons_self
    rw [after_cons, ih _ fun d hd ↦ hnarrow d (List.mem_cons_of_mem c hd), next_of_narrow p hbreak hmark]
    simp only [List.length_cons, mk.injEq, true_and]
    omega

/-- A text never leads back to an earlier line. -/
theorem line_le_after (p : Place) (cs : List Char) : p.line ≤ (p.after cs).line := by
  induction cs generalizing p with
  | nil => exact Nat.le_refl _
  | cons c cs ih =>
    refine Nat.le_trans ?_ (ih (p.next c))
    unfold next
    split
    · exact Nat.le_succ _
    · exact Nat.le_refl _

/-- After characters with a line end among them, the place is on a later line. -/
theorem line_lt_after (p : Place) {cs : List Char} (hbreak : cs.any isBreak = true) :
    p.line < (p.after cs).line := by
  induction cs generalizing p with
  | nil => cases hbreak
  | cons c cs ih =>
    rw [after_cons]
    by_cases hc : isBreak c = true
    · exact Nat.lt_of_lt_of_le (by simp [next_of_break p hc]) (line_le_after (p.next c) cs)
    · have hline : (p.next c).line = p.line := by simp [next, hc]
      exact hline ▸ ih (p.next c) (by simpa [hc] using hbreak)

end Place

/-- The glyphs of a text that begins at a place. -/
def glyphs (p : Place) (cs : List Char) : List Glyph := Glyph.ofTextAt p.line p.column p.offset cs

theorem ofText_eq_glyphs (cs : List Char) : Glyph.ofText cs = glyphs .origin cs := rfl

@[simp] theorem glyphs_nil (p : Place) : glyphs p [] = [] := rfl

/-- The glyphs of a text are its first character at the place and the others behind it. -/
@[simp] theorem glyphs_cons (p : Place) (c : Char) (cs : List Char) :
    glyphs p (c :: cs) = ⟨c, p.line, p.column, p.offset⟩ :: glyphs (p.next c) cs := by
  simp only [glyphs, Glyph.ofTextAt, Place.next]
  split <;> rfl

@[simp] theorem length_glyphs (p : Place) (cs : List Char) : (glyphs p cs).length = cs.length := by
  induction cs generalizing p with
  | nil => rfl
  | cons c cs ih => simp [ih]

/-! ### Questions about what is left -/

/-- Skipping characters of a text leads to the place behind them. -/
theorem skipWhile_glyphs (holds : Char → Bool) (p : Place) (cs : List Char) :
    skipWhile holds (glyphs p cs) = glyphs (p.after (cs.takeWhile holds)) (cs.dropWhile holds) := by
  induction cs generalizing p with
  | nil => rfl
  | cons c cs ih =>
    simp only [skipWhile] at ih
    cases hc : holds c <;> simp [skipWhile, hc, ih]

theorem charsWhile_glyphs (holds : Char → Bool) (p : Place) (cs : List Char) :
    charsWhile holds (glyphs p cs) = cs.takeWhile holds := by
  induction cs generalizing p with
  | nil => rfl
  | cons c cs ih =>
    simp only [charsWhile, Glyph.text] at ih
    cases hc : holds c <;> simp [charsWhile, Glyph.text, hc, ih]

/-- What is asked of the rest of a text is asked of its first character. -/
theorem endsOr_glyphs (holds : Char → Bool) (p : Place) (cs : List Char) :
    endsOr holds (glyphs p cs) = cs.head?.all holds := by
  cases cs <;> simp [endsOr]

theorem atGap_glyphs (p : Place) (cs : List Char) : atGap (glyphs p cs) = cs.head?.all isGap :=
  endsOr_glyphs isGap p cs

theorem atMarker_of_ne {mark : Char} {glyph : Glyph} (hne : glyph.char ≠ mark) (rest : List Glyph) :
    atMarker mark (glyph :: rest) = false := by
  unfold atMarker
  split
  · rename_i heq
    cases heq
    simp [hne]
  · rfl

/-- No mark of a document's start or end begins with a character other than a hyphen and a point. -/
theorem atDocumentMarker_of_ne {glyph : Glyph} (hhyphen : glyph.char ≠ '-') (hpoint : glyph.char ≠ '.')
    (rest : List Glyph) : atDocumentMarker (glyph :: rest) = false := by
  simp [atDocumentMarker, atMarker_of_ne hhyphen, atMarker_of_ne hpoint]

/-- No mark of a document's start or end has a second character that is a space. -/
theorem atDocumentMarker_of_space {first second : Glyph} (hspace : second.char = ' ') (rest : List Glyph) :
    atDocumentMarker (first :: second :: rest) = false := by
  cases rest <;> simp [atDocumentMarker, atMarker, hspace]

/-! ### Classes of characters -/

/-- Characters that a class tells apart are different. -/
theorem ne_of_class (holds : Char → Bool) {c d : Char} (hc : holds c = false) (hd : holds d = true) : c ≠ d := by
  rintro rfl
  exact Bool.false_ne_true (hc.symm.trans hd)

theorem isGap_of_isBreak {c : Char} (hbreak : isBreak c = true) : isGap c = true := by
  simp [isGap, hbreak]

theorem isBreak_of_not_isGap {c : Char} (hgap : isGap c = false) : isBreak c = false := by
  simp only [isGap, Bool.or_eq_false_iff] at hgap
  exact hgap.2

theorem isSpaceOrTab_of_not_isGap {c : Char} (hgap : isGap c = false) : isSpaceOrTab c = false := by
  simp only [isGap, Bool.or_eq_false_iff] at hgap
  exact hgap.1

theorem isSpaceOrTab_of_isBreak {c : Char} (hbreak : isBreak c = true) : isSpaceOrTab c = false := by
  simp only [isBreak, Bool.or_eq_true, beq_iff_eq] at hbreak
  rcases hbreak with ((rfl | rfl) | rfl) | rfl <;> decide

end WorkerAdvisor.Yaml
