import WorkerAdvisor.Proofs.Yaml.DoubleQuoted
import WorkerAdvisor.Proofs.Yaml.Finishing
import WorkerAdvisor.Proofs.Yaml.PlainText
import WorkerAdvisor.Proofs.Yaml.Reread

/-!
The tokens of keys, scalars and the marks between them.

Each lemma goes past one piece of a listing outside brackets: a space or a line end, a hyphen before an item, an empty
list, a name with its colon (`Finishes.name`), and a scalar up to the next line, in whatever style it is written
(`Finishes.scalar`).
-/

set_option autoImplicit false

namespace WorkerAdvisor.Yaml.Reading

variable {p : Place} {tokens finished : List Token} {indents : List Nat} {keyAllowed : Bool}

/-- A state outside brackets, at a place, with a text left and no candidate for a key. -/
def outside (p : Place) (cs : List Char) (tokens : List Token) (indents : List Nat) (keyAllowed : Bool) : Reading :=
  ⟨glyphs p cs, tokens, indents, keyAllowed, none, []⟩

/-! ### Gaps -/

/-- A space between tokens is skipped. -/
theorem Finishes.space {cs : List Char}
    (hfinishes : (outside (p.next ' ') cs tokens indents keyAllowed).Finishes finished) :
    (outside p (' ' :: cs) tokens indents keyAllowed).Finishes finished :=
  hfinishes.of_toToken (by simp [outside, toToken, skipGap, isBreak, inFlow])

/-- After a line end a key may begin. -/
theorem Finishes.newLine {cs : List Char}
    (hfinishes : (outside (p.next '\n') cs tokens indents true).Finishes finished) :
    (outside p ('\n' :: cs) tokens indents keyAllowed).Finishes finished :=
  hfinishes.of_toToken (by simp [outside, toToken, skipGap, isBreak, inFlow])

/-- At the end of the text the last open collection is closed. -/
theorem finishes_end (column : Nat) : (outside p [] tokens [column] keyAllowed).Finishes (.blockEnd :: tokens) :=
  finishes_of_end rfl rfl rfl

/-! ### Which token begins with a character -/

section Dispatch

variable {r : Reading} {glyph : Glyph} {rest : List Glyph}

theorem not_atMarker {c : Char} (rest : List Glyph) (hchar : glyph.char = c) (hhyphen : c ≠ '-') (hpoint : c ≠ '.') :
    atMarker '-' (glyph :: rest) = false ∧ atMarker '.' (glyph :: rest) = false := by
  subst hchar
  exact ⟨atMarker_of_ne hhyphen rest, atMarker_of_ne hpoint rest⟩

theorem token_entry (hchar : glyph.char = '-') (hmarker : atMarker '-' (glyph :: rest) = false)
    (hgap : atGap rest = true) : r.token glyph rest = r.blockEntry glyph rest := by
  have hpoint : atMarker '.' (glyph :: rest) = false := atMarker_of_ne (by simp [hchar]) rest
  simp [Reading.token, hchar, hmarker, hpoint, hgap]

theorem token_value (hchar : glyph.char = ':') (hgap : atGap rest = true) :
    r.token glyph rest = r.value glyph rest := by
  obtain ⟨hhyphen, hpoint⟩ := not_atMarker rest hchar (by decide) (by decide)
  simp [Reading.token, hchar, hhyphen, hpoint, hgap]

theorem token_openFlow (hchar : glyph.char = '[') :
    r.token glyph rest = r.openFlow glyph rest .flowSequenceStart := by
  obtain ⟨hhyphen, hpoint⟩ := not_atMarker rest hchar (by decide) (by decide)
  simp [Reading.token, hchar, hhyphen, hpoint]

theorem token_closeFlow (hchar : glyph.char = ']') :
    r.token glyph rest = r.closeFlow rest .flowSequenceEnd := by
  obtain ⟨hhyphen, hpoint⟩ := not_atMarker rest hchar (by decide) (by decide)
  simp [Reading.token, hchar, hhyphen, hpoint]

theorem token_single (hchar : glyph.char = '\'') :
    r.token glyph rest = r.quotedScalar glyph (Quoted.readSingle (rest.length + 1) rest) := by
  obtain ⟨hhyphen, hpoint⟩ := not_atMarker rest hchar (by decide) (by decide)
  simp [Reading.token, hchar, hhyphen, hpoint]

theorem token_double (hchar : glyph.char = '"') :
    r.token glyph rest = r.quotedScalar glyph (Quoted.readDouble (rest.length + 1) rest) := by
  obtain ⟨hhyphen, hpoint⟩ := not_atMarker rest hchar (by decide) (by decide)
  simp [Reading.token, hchar, hhyphen, hpoint]

theorem isFirstIndicator_eq_false {c : Char} : ScalarStyle.isFirstIndicator c = false ↔
    c ∉ ['#', ',', '[', ']', '\x7b', '\x7d', '&', '*', '!', '|', '>', '\'', '"', '%', '@', '\x60'] := by
  have hlist : "#,[]\x7b\x7d&*!|>'\"%@\x60".toList =
      ['#', ',', '[', ']', '\x7b', '\x7d', '&', '*', '!', '|', '>', '\'', '"', '%', '@', '\x60'] := by
    decide +kernel
  rw [ScalarStyle.isFirstIndicator, hlist]
  simp

/-- A plain scalar begins with a character that is no indicator. A hyphen, a question mark or a colon is none if
something follows it directly. -/
theorem beginsPlain_of_followed {c : Char} (hflow : r.inFlow = false) (hgap : isGap c = false)
    (hindicator : ScalarStyle.isFirstIndicator c = false)
    (hfollowed : c = '-' ∨ c = '?' ∨ c = ':' → atGap rest = false) : r.beginsPlain c rest = true := by
  rw [isFirstIndicator_eq_false] at hindicator
  by_cases hmark : c = '-' ∨ c = '?' ∨ c = ':'
  · rw [beginsPlain, hfollowed hmark, hflow]
    rcases hmark with rfl | rfl | rfl <;> simp
  · have hlist : "-?:,[]\x7b\x7d#&*!|>'\"%@\x60".toList = ['-', '?', ':', ',', '[', ']', '\x7b', '\x7d', '#', '&', '*',
        '!', '|', '>', '\'', '"', '%', '@', '\x60'] := by
      decide +kernel
    simp only [List.mem_cons, not_or] at hindicator hmark
    simp [beginsPlain, hlist, hgap, hindicator, hmark]

/-- What begins with no indicator is a plain scalar, and so is what begins with one of three if no gap follows it. -/
theorem token_plain (hflow : r.inFlow = false) (hgap : isGap glyph.char = false)
    (hindicator : ScalarStyle.isFirstIndicator glyph.char = false)
    (hfollowed : glyph.char = '-' ∨ glyph.char = '?' ∨ glyph.char = ':' → atGap rest = false)
    (hstart : glyph.column = 0 → glyph.char ≠ '-' ∧ glyph.char ≠ '.') :
    r.token glyph rest = r.plainScalar glyph := by
  have hbegins := beginsPlain_of_followed hflow hgap hindicator hfollowed
  have hhyphen : ¬ (glyph.column = 0 ∧ atMarker '-' (glyph :: rest) = true) := by
    rintro ⟨hzero, hmarker⟩
    simp [atMarker_of_ne (hstart hzero).1] at hmarker
  have hpoint : ¬ (glyph.column = 0 ∧ atMarker '.' (glyph :: rest) = true) := by
    rintro ⟨hzero, hmarker⟩
    simp [atMarker_of_ne (hstart hzero).2] at hmarker
  have hentry : ¬ (glyph.char = '-' ∧ atGap rest = true) := by
    rintro ⟨hchar, hnot⟩
    simp [hfollowed (.inl hchar)] at hnot
  have hkey : ¬ (glyph.char = '?' ∧ (r.inFlow = true ∨ atGap rest = true)) := by
    rintro ⟨hchar, hnot⟩
    simp [hflow, hfollowed (.inr (.inl hchar))] at hnot
  have hvalue : ¬ (glyph.char = ':' ∧ (r.inFlow = true ∨ atGap rest = true)) := by
    rintro ⟨hchar, hnot⟩
    simp [hflow, hfollowed (.inr (.inr hchar))] at hnot
  rw [isFirstIndicator_eq_false] at hindicator
  simp only [List.mem_cons, not_or] at hindicator
  unfold Reading.token
  simp only [hhyphen, hpoint, hentry, hkey, hvalue, hindicator, hbegins, false_and, if_true, if_false]

end Dispatch

/-! ### Single tokens -/

/-- Nothing is closed at a column that no open collection is deeper than. -/
theorem closeTo_of_le {r : Reading} {column : Nat} (hdepth : ∀ outer ∈ r.indents.head?, outer ≤ column) :
    r.closeTo column = r := by
  unfold closeTo
  split
  · rfl
  · cases r with
    | mk rest tokens indents keyAllowed candidate outer =>
      cases indents with
      | nil => rfl
      | cons first indents =>
        have hnot : ¬ column < first := Nat.not_lt.mpr (hdepth first rfl)
        simp [hnot]

/-- A state that is not shallower than the open collections finishes with what follows its next token. -/
theorem Finishes.token {c : Char} {rest : List Char} {next : Reading} (hnext : next.Finishes finished)
    (hgap : isGap c = false) (hcomment : c ≠ '#') (hdepth : ∀ outer ∈ indents.head?, outer ≤ p.column)
    (htoken : (outside p (c :: rest) tokens indents keyAllowed).token ⟨c, p.line, p.column, p.offset⟩
      (glyphs (p.next c) rest) = .ok next)
    (hshorter : next.rest.length ≤ rest.length) :
    (outside p (c :: rest) tokens indents keyAllowed).Finishes finished := by
  have htoToken : (outside p (c :: rest) tokens indents keyAllowed).toToken =
      outside p (c :: rest) tokens indents keyAllowed :=
    toToken_of_token (glyphs_cons p c rest) hgap hcomment
  have hrest : (outside p (c :: rest) tokens indents keyAllowed).toToken.rest =
      ⟨c, p.line, p.column, p.offset⟩ :: glyphs (p.next c) rest := by
    rw [htoToken]
    exact glyphs_cons p c rest
  have hfresh : (outside p (c :: rest) tokens indents keyAllowed).toToken.dropStale
      ⟨c, p.line, p.column, p.offset⟩ = .ok (outside p (c :: rest) tokens indents keyAllowed) := by
    rw [htoToken]
    rfl
  refine hnext.step hrest hfresh ?_ (by simpa using hshorter)
  rwa [closeTo_of_le hdepth]

/-- A mark cannot be the start of a longer one that a gap interrupts. -/
theorem atMarker_of_gap {mark : Char} (hmark : isGap mark = false) (first : Glyph) (q : Place) {rest : List Char}
    (hgap : rest.head?.all isGap = true) : atMarker mark (first :: glyphs q rest) = false := by
  match rest with
  | [] => rfl
  | [c] => simp [atMarker]
  | c :: d :: rest =>
    have hc : c ≠ mark := (ne_of_class isGap hmark (by simpa using hgap)).symm
    simp [atMarker, hc]

/-- An item of a sequence that is not indented further than the mapping around it. -/
theorem Finishes.entry {rest : List Char} {column : Nat} {outer : List Nat} (hcolumn : p.column = column)
    (hgap : rest.head?.all isGap = true)
    (hrest : (outside (p.next '-') rest (.blockEntry :: tokens) (column :: outer) true).Finishes finished) :
    (outside p ('-' :: rest) tokens (column :: outer) true).Finishes finished := by
  subst hcolumn
  have hmarker : atMarker '-' (⟨'-', p.line, p.column, p.offset⟩ :: glyphs (p.next '-') rest) = false :=
    atMarker_of_gap rfl _ (p.next '-') hgap
  have hopen : (outside p ('-' :: rest) tokens (p.column :: outer) true).openAt p.column .blockSequenceStart =
      outside p ('-' :: rest) tokens (p.column :: outer) true :=
    if_neg (Nat.not_succ_le_self p.column)
  refine hrest.token rfl (by decide) (by simp) ?_ (by simp [outside])
  rw [token_entry rfl hmarker (by rwa [atGap_glyphs])]
  simp only [blockEntry, hopen]
  rfl

/-- An empty list in brackets. -/
theorem Finishes.emptyList {rest : List Char} (hdepth : ∀ outer ∈ indents.head?, outer ≤ p.column)
    (hrest : (outside ((p.next '[').next ']') rest (.flowSequenceEnd :: .flowSequenceStart :: tokens) indents
      false).Finishes finished) :
    (outside p ('[' :: ']' :: rest) tokens indents false).Finishes finished := by
  -- Between the brackets there is no candidate, nor is there one for the list as a whole.
  have hclose : Finishes ⟨glyphs (p.next '[') (']' :: rest), .flowSequenceStart :: tokens, indents, true, none,
      [none]⟩ finished := by
    have htoToken := toToken_of_token (r := ⟨glyphs (p.next '[') (']' :: rest), .flowSequenceStart :: tokens, indents,
      true, none, [none]⟩) (glyphs_cons ..) rfl (by simp)
    refine hrest.step (by rw [htoToken]; exact glyphs_cons ..) (by rw [htoToken]; rfl) ?_ (by simp [outside])
    rw [token_closeFlow rfl]
    rfl
  refine hclose.token rfl (by decide) hdepth ?_ (by simp)
  rw [token_openFlow rfl]
  rfl

/-! ### Names -/

/-- Whether a character may stand in the name of a field. -/
def isNameLetter (c : Char) : Bool := c.isAlpha || c == '_'

/-- Whether a text can stand before a colon as a key, and is a text as a key. -/
structure IsName (name : String) : Prop where
  letters : name.toList.all isNameLetter = true
  nonempty : name.toList ≠ []
  short : name.toList.length ≤ keyLimit
  form : Tag.ofForm name = .text

/-- A letter of a name is no indicator and separates nothing. -/
theorem isNameLetter_ne {c d : Char} (hletter : isNameLetter c = true) (hd : isNameLetter d = false) : c ≠ d :=
  (ne_of_class isNameLetter hd hletter).symm

/-- A letter of a name is none of some marks. -/
theorem isNameLetter_ne_of_mem {marks : List Char} (hmarks : (marks.all fun mark ↦ !isNameLetter mark) = true)
    {c mark : Char} (hletter : isNameLetter c = true) (hmark : mark ∈ marks) : c ≠ mark :=
  isNameLetter_ne hletter (by simpa using List.all_eq_true.mp hmarks mark hmark)

theorem isGap_of_isNameLetter {c : Char} (hletter : isNameLetter c = true) : isGap c = false := by
  have hne : ∀ d ∈ [' ', '\t', '\n', '\x85', '\u2028', '\u2029'], c ≠ d := fun d hd ↦
    isNameLetter_ne_of_mem (by decide) hletter hd
  simp only [List.forall_mem_cons] at hne
  simp [isGap, isSpaceOrTab, isBreak, hne]

theorem isFirstIndicator_of_isNameLetter {c : Char} (hletter : isNameLetter c = true) :
    ScalarStyle.isFirstIndicator c = false :=
  isFirstIndicator_eq_false.mpr fun hmem ↦ isNameLetter_ne_of_mem (by decide) hletter hmem rfl

/-- A name is read as a plain scalar up to its colon. -/
theorem read_name {name tail : List Char} (hletters : name.all isNameLetter = true) (hne : name ≠ [])
    (hgap : tail.head?.all isGap = true) (q : Place) (limit steps : Nat) :
    Plain.read false limit (steps + 1) [] (glyphs q (name ++ ':' :: tail)) =
      (name, false, glyphs (q.after name) (':' :: tail)) := by
  have hpart : Plain.part false (glyphs q (name ++ ':' :: tail)) = (name, glyphs (q.after name) (':' :: tail)) := by
    refine ScalarStyle.part_glyphs q (fun before c after heq ↦ ?_) fun q ↦ ScalarStyle.part_of_colon q hgap
    have hletter : isNameLetter c = true := List.all_eq_true.mp hletters c (by simp [heq])
    exact ⟨isGap_of_isNameLetter hletter, fun hc ↦ absurd hc (isNameLetter_ne hletter rfl)⟩
  have hbetween : Plain.between (glyphs (q.after name) (':' :: tail)) =
      ([], false, glyphs (q.after name) (':' :: tail)) := by
    unfold Plain.between
    rw [charsWhile_glyphs, skipWhile_glyphs]
    simp [isBreak]
  exact ScalarStyle.read_last hne hpart hbetween rfl

/-- A plain scalar is a token that can be a key. -/
theorem token_of_read {r : Reading} {glyph : Glyph} {rest left : List Glyph} {content : List Char} {passedBreak : Bool}
    (houter : r.outer = [])
    (hread : Plain.read false r.innerColumn r.rest.length [] r.rest = (content, passedBreak, left))
    (hgap : isGap glyph.char = false) (hindicator : ScalarStyle.isFirstIndicator glyph.char = false)
    (hfollowed : glyph.char = '-' ∨ glyph.char = '?' ∨ glyph.char = ':' → atGap rest = false)
    (hstart : glyph.column = 0 → glyph.char ≠ '-' ∧ glyph.char ≠ '.') :
    r.token glyph rest = r.keyToken glyph left (.scalar (String.ofList content) true) passedBreak := by
  have hflow : r.inFlow = false := by simp [inFlow, houter]
  rw [token_plain hflow hgap hindicator hfollowed hstart]
  simp [plainScalar, hflow, hread]

/-- A letter of a name takes up a column. -/
theorem narrow_of_isNameLetter {c : Char} (hletter : isNameLetter c = true) :
    isBreak c = false ∧ c ≠ byteOrderMark :=
  ⟨isBreak_of_not_isGap (isGap_of_isNameLetter hletter), isNameLetter_ne hletter (by decide)⟩

/-- The state after a name and before its colon, with the name as the candidate for a key. -/
def afterName (p : Place) (name : String) (required : Bool) (c : Char) (tail : List Char) (tokens : List Token)
    (indents : List Nat) : Reading :=
  ⟨glyphs (p.after name.toList) (':' :: tail), .scalar name true :: tokens, indents, false,
    some ⟨tokens.length, required, ⟨c, p.line, p.column, p.offset⟩⟩, []⟩

/-- A name is the candidate for a key. -/
theorem token_name {name : String} {tail : List Char} (p : Place) (tokens : List Token) (indents : List Nat)
    (hname : IsName name) (hgap : tail.head?.all isGap = true) {c : Char} {cs : List Char}
    (hcs : name.toList = c :: cs) :
    ∃ required, (outside p (name.toList ++ ':' :: tail) tokens indents true).token ⟨c, p.line, p.column, p.offset⟩
      (glyphs (p.next c) (cs ++ ':' :: tail)) = .ok (afterName p name required c tail tokens indents) := by
  have hletter : isNameLetter c = true := List.all_eq_true.mp hname.letters c (by simp [hcs])
  have hlength : (outside p (name.toList ++ ':' :: tail) tokens indents true).rest.length =
      cs.length + (tail.length + 1) + 1 := by simp [outside, hcs]
  have hread := read_name hname.letters hname.nonempty hgap p
    (outside p (name.toList ++ ':' :: tail) tokens indents true).innerColumn (cs.length + (tail.length + 1))
  rw [← hlength] at hread
  refine ⟨(outside p (name.toList ++ ':' :: tail) tokens indents true).innerColumn == p.column + 1,
    (token_of_read rfl hread (isGap_of_isNameLetter hletter) (isFirstIndicator_of_isNameLetter hletter)
      (fun hmark ↦ ?_) fun _ ↦ ⟨isNameLetter_ne hletter rfl, isNameLetter_ne hletter rfl⟩).trans ?_⟩
  · rcases hmark with hc | hc | hc <;> exact absurd hc (isNameLetter_ne hletter rfl)
  · rw [String.ofList_toList]
    rfl

/-- The colon after a name makes a key of it. -/
theorem Finishes.colon {name : String} {tail : List Char} {opened : List Token} {columns : List Nat} (c : Char)
    (required : Bool) (hname : IsName name) (hgap : tail.head?.all isGap = true)
    (hdepth : ∀ outer ∈ indents.head?, outer ≤ p.column)
    (hinsert : ∀ (r : Reading) key, r.outer = [] → r.indents = indents → r.tokens = .scalar name true :: tokens →
      key.preceding = tokens.length → key.glyph.column = p.column →
      r.insertKey key = { r with tokens := .scalar name true :: .key :: opened, indents := columns })
    (hrest : (outside (p.after (name.toList ++ [':'])) tail (.value :: .scalar name true :: .key :: opened) columns
      false).Finishes finished) :
    (afterName p name required c tail tokens indents).Finishes finished := by
  have hplace : p.after name.toList = ⟨p.line, p.column + name.toList.length, p.offset + name.toList.length⟩ :=
    Place.after_of_narrow p fun d hd ↦ narrow_of_isNameLetter (List.all_eq_true.mp hname.letters d hd)
  have htoToken : (afterName p name required c tail tokens indents).toToken =
      afterName p name required c tail tokens indents :=
    toToken_of_token (glyphs_cons ..) rfl (by simp)
  have hfresh : (afterName p name required c tail tokens indents).toToken.dropStale
      ⟨':', p.line, p.column + name.toList.length, p.offset + name.toList.length⟩ =
        .ok (afterName p name required c tail tokens indents) := by
    have hnear : ¬ keyLimit < name.toList.length := Nat.not_lt.mpr hname.short
    rw [htoToken]
    simp only [dropStale, afterName, KeyCandidate.at, Nat.add_sub_cancel_left, hnear, ne_eq, not_true_eq_false,
      or_self, if_false]
    rfl
  refine hrest.step (by rw [htoToken]; exact glyphs_cons ..) (by rw [hplace]; exact hfresh) ?_ (by simp [outside])
  rw [closeTo_of_le fun outer houter ↦ ?_, token_value rfl (by rwa [atGap_glyphs])]
  · have hkey := hinsert { afterName p name required c tail tokens indents with candidate := none }
      ⟨tokens.length, required, ⟨c, p.line, p.column, p.offset⟩⟩ rfl rfl rfl rfl rfl
    simp only [value, afterName] at hkey ⊢
    rw [hkey]
    simp [outside]
  · have hcolumn := hdepth outer houter
    simp only [hplace]
    omega

/-- A name with its colon begins a pair of a mapping: `opened` and `columns` are the tokens and the open collections
where the mapping has been opened, if it was not open. -/
theorem Finishes.name {name : String} {tail : List Char} {opened : List Token} {columns : List Nat}
    (hname : IsName name) (hgap : tail.head?.all isGap = true) (hdepth : ∀ outer ∈ indents.head?, outer ≤ p.column)
    (hinsert : ∀ (r : Reading) key, r.outer = [] → r.indents = indents → r.tokens = .scalar name true :: tokens →
      key.preceding = tokens.length → key.glyph.column = p.column →
      r.insertKey key = { r with tokens := .scalar name true :: .key :: opened, indents := columns })
    (hrest : (outside (p.after (name.toList ++ [':'])) tail (.value :: .scalar name true :: .key :: opened) columns
      false).Finishes finished) :
    (outside p (name.toList ++ ':' :: tail) tokens indents true).Finishes finished := by
  obtain ⟨c, cs, hcs⟩ := List.exists_cons_of_ne_nil hname.nonempty
  have hletter : isNameLetter c = true := List.all_eq_true.mp hname.letters c (by simp [hcs])
  obtain ⟨required, htoken⟩ := token_name p tokens indents hname hgap hcs
  have hafter := hrest.colon c required hname hgap hdepth hinsert
  have hshorter : (afterName p name required c tail tokens indents).rest.length ≤ (cs ++ ':' :: tail).length := by
    simp [afterName]
  rw [hcs, List.cons_append] at *
  exact hafter.token (isGap_of_isNameLetter hletter) (isNameLetter_ne hletter rfl) hdepth htoken hshorter

/-- The first name of a mapping, which is deeper than the open collections, opens it. -/
theorem Finishes.firstName {name : String} {tail : List Char} {column : Nat} (hname : IsName name)
    (hgap : tail.head?.all isGap = true) (hcolumn : p.column = column)
    (hdeeper : ∀ outer ∈ indents.head?, outer < column)
    (hrest : (outside (p.after (name.toList ++ [':'])) tail
      (.value :: .scalar name true :: .key :: .blockMappingStart :: tokens) (column :: indents) false).Finishes
        finished) :
    (outside p (name.toList ++ ':' :: tail) tokens indents true).Finishes finished := by
  refine hrest.name hname hgap (fun outer houter ↦ hcolumn ▸ Nat.le_of_lt (hdeeper outer houter)) ?_
  intro r key houter hindents htokens hpreceding hkey
  have hinner : r.innerColumn ≤ column := by
    unfold innerColumn
    rw [hindents]
    cases indents with
    | nil => exact Nat.zero_le _
    | cons outer indents => exact hdeeper outer rfl
  simp [insertKey, inFlow, houter, hindents, htokens, hpreceding, hinner, hkey, hcolumn]

/-- Another name of a mapping that is open at the same column. -/
theorem Finishes.nextName {name : String} {tail : List Char} {column : Nat} {outer : List Nat} (hname : IsName name)
    (hgap : tail.head?.all isGap = true) (hcolumn : p.column = column)
    (hrest : (outside (p.after (name.toList ++ [':'])) tail (.value :: .scalar name true :: .key :: tokens)
      (column :: outer) false).Finishes finished) :
    (outside p (name.toList ++ ':' :: tail) tokens (column :: outer) true).Finishes finished := by
  refine hrest.name hname hgap (by simp [hcolumn]) ?_
  intro r key houter hindents htokens hpreceding hkey
  cases r
  subst houter hindents htokens
  simp [insertKey, inFlow, innerColumn, hpreceding, hkey, hcolumn]

/-! ### Scalars -/

/-- The token of a text that is written as a scalar. -/
def scalarToken (content : String) : Token :=
  .scalar (reread content) (ScalarStyle.choose content.toList == .plain)

theorem line_le_of_mem_glyphs {q : Place} {cs : List Char} {glyph : Glyph} (hmem : glyph ∈ glyphs q cs) :
    q.line ≤ glyph.line := by
  induction cs generalizing q with
  | nil => cases hmem
  | cons c cs ih =>
    rw [glyphs_cons, List.mem_cons] at hmem
    rcases hmem with rfl | hmem
    · exact Nat.le_refl _
    · exact Nat.le_trans (Place.line_le_after q [c]) (ih hmem)

/-- The candidate that a scalar leaves, which need not be a key since the scalar is deeper than the open
collections. -/
def leftCandidate (p : Place) (c : Char) (tokens : List Token) (keyAllowed : Bool) : Option KeyCandidate :=
  if keyAllowed then some ⟨tokens.length, false, ⟨c, p.line, p.column, p.offset⟩⟩ else none

/-- Outside brackets, a token that is deeper than the mapping around it leaves a candidate for a key that need not
come. -/
theorem saveCandidate_outside {cs : List Char} {column : Nat} {outer : List Nat} (hdeeper : column < p.column)
    (c : Char) :
    (outside p cs tokens (column :: outer) keyAllowed).saveCandidate ⟨c, p.line, p.column, p.offset⟩ =
      .ok { outside p cs tokens (column :: outer) keyAllowed with
        candidate := leftCandidate p c tokens keyAllowed } := by
  have hne : column ≠ p.column := Nat.ne_of_lt hdeeper
  cases keyAllowed with
  | false => rfl
  | true => simp [saveCandidate, outside, Reading.dropCandidate, innerColumn, inFlow, leftCandidate, hne]

/-- After a scalar, what is left of its line is skipped, and the candidate that it left is given up on the next. -/
theorem Finishes.afterScalar {q : Place} {tail : List Char} {left : List Glyph} (c : Char) (earlier : List Token)
    (keyAllowed allowed : Bool) (hline : p.line < q.line)
    (hrest : (outside q tail tokens indents true).Finishes finished)
    (hleft : (skipGap false left).2 = (skipGap false (glyphs q tail)).2)
    (hallowed : (allowed || (skipGap false left).1) = true) :
    Finishes ⟨left, tokens, indents, allowed, leftCandidate p c earlier keyAllowed, []⟩ finished := by
  have hgivenUp : Finishes ⟨glyphs q tail, tokens, indents, true, leftCandidate p c earlier keyAllowed, []⟩
      finished := by
    cases keyAllowed with
    | false => exact hrest
    | true =>
      exact giveUp hrest rfl rfl rfl fun glyph hmem ↦
        Nat.ne_of_lt (Nat.lt_of_lt_of_le hline (line_le_of_mem_glyphs hmem))
  exact hgivenUp.of_toToken (by simp [toToken, inFlow, hleft, hallowed])

/-- A text that is written plainly is a token, and the spaces at the start of the next line are skipped with it. -/
theorem token_plainFrom {content : String} {tail : List Char} {column : Nat} (p : Place) (tokens : List Token)
    (outer : List Nat) (keyAllowed : Bool) (printColumn : Nat)
    (hfits : ScalarStyle.fitsPlain content.toList = true) (hdeeper : column < p.column)
    (hindent : column < ScalarStyle.indent) (htail : ScalarStyle.Dedents (column + 1) tail) :
    ∃ c rest, ScalarStyle.plainFrom printColumn false content.toList ++ '\n' :: tail = c :: rest ∧ isGap c = false ∧
      c ≠ '#' ∧ (outside p (c :: rest) tokens (column :: outer) keyAllowed).token ⟨c, p.line, p.column, p.offset⟩
        (glyphs (p.next c) rest) = .ok ⟨skipWhile (· == ' ') (glyphs (p.after (ScalarStyle.plainFrom printColumn false
          content.toList ++ ['\n'])) tail), .scalar content true :: tokens, column :: outer, true,
          leftCandidate p c tokens keyAllowed, []⟩ := by
  obtain ⟨hplain, c, rest, hcs, hindicator, hfollowed⟩ := ScalarStyle.isPlain_of_fitsPlain hfits
  obtain ⟨c', rest', hcs', hgap, hwritten⟩ := hplain.head_plainFrom printColumn false
  obtain ⟨rfl, rfl⟩ : c' = c ∧ rest' = rest := by simpa [hcs] using hcs'.symm
  have hcomment : c' ≠ '#' := by
    rintro rfl
    simp [isFirstIndicator_eq_false] at hindicator
  have hfollows : c' = '-' ∨ c' = '?' ∨ c' = ':' →
      atGap (glyphs (p.next c') (ScalarStyle.plainFrom (printColumn + 1) true rest' ++ '\n' :: tail)) = false := by
    intro hmark
    rw [atGap_glyphs, ScalarStyle.head_plainFrom_of_followed _ _ (hfollowed hmark)]
  have hsteps : content.toList.length ≤ (outside p (ScalarStyle.plainFrom printColumn false content.toList ++
      '\n' :: tail) tokens (column :: outer) keyAllowed).rest.length := by
    simp only [outside, length_glyphs, List.length_append]
    exact Nat.le_add_right_of_le (ScalarStyle.length_le_plainFrom ..)
  have hread := hplain.readsPlain hindent htail hsteps p hdeeper printColumn false []
  rw [List.nil_append] at hread
  have hzero : p.column ≠ 0 := Nat.ne_of_gt (Nat.lt_of_le_of_lt (Nat.zero_le _) hdeeper)
  refine ⟨c', _, by rw [hwritten, List.cons_append], hgap, hcomment, ?_⟩
  rw [hwritten, List.cons_append] at hread
  refine (token_of_read (r := outside p (c' :: _) tokens (column :: outer) keyAllowed) rfl hread hgap hindicator hfollows
    fun hstart ↦ absurd hstart hzero).trans ?_
  rw [String.ofList_toList]
  simp only [keyToken, saveCandidate_outside hdeeper c', hwritten]
  rfl

/-- A scalar that is written plainly is read up to the next line. -/
theorem Finishes.plainScalar {content : String} {tail : List Char} {column : Nat} {outer : List Nat}
    (printColumn : Nat) (hfits : ScalarStyle.fitsPlain content.toList = true) (hdeeper : column < p.column)
    (hindent : column < ScalarStyle.indent) (htail : ScalarStyle.Dedents (column + 1) tail)
    (hrest : (outside (p.after (ScalarStyle.plainFrom printColumn false content.toList ++ ['\n'])) tail
      (.scalar content true :: tokens) (column :: outer) true).Finishes finished) :
    (outside p (ScalarStyle.plainFrom printColumn false content.toList ++ '\n' :: tail) tokens (column :: outer)
      keyAllowed).Finishes finished := by
  obtain ⟨c, rest, hwritten, hgap, hcomment, htoken⟩ :=
    token_plainFrom p tokens outer keyAllowed printColumn hfits hdeeper hindent htail
  have hplace : p.line < (p.after (ScalarStyle.plainFrom printColumn false content.toList ++ ['\n'])).line :=
    Place.line_lt_after p (by simp [isBreak])
  have hafter := hrest.afterScalar c tokens keyAllowed true hplace (congrArg Prod.snd (skipGap_skipWhile _)) rfl
  have hlength := congrArg List.length hwritten
  have hshorter := (List.dropWhile_suffix (fun glyph : Glyph ↦ glyph.char == ' ') (l := glyphs (p.after
    (ScalarStyle.plainFrom printColumn false content.toList ++ ['\n'])) tail)).length_le
  rw [hwritten]
  refine hafter.token hgap hcomment (by simpa using Nat.le_of_lt hdeeper) htoken (Nat.le_trans hshorter ?_)
  simp only [length_glyphs, List.length_append, List.length_cons] at hlength ⊢
  omega

/-- A scalar in quotes is read up to the next line if its reader reads it. -/
theorem Finishes.quotedScalar {quote : Char} {inside tail content : List Char} {column : Nat} {outer : List Nat}
    {reader : Quoted.Reader} (hgap : isGap quote = false) (hcomment : quote ≠ '#') (hdeeper : column < p.column)
    (hdispatch : ∀ (r : Reading) (glyph : Glyph) (rest : List Glyph), glyph.char = quote →
      r.token glyph rest = r.quotedScalar glyph (reader (rest.length + 1) rest))
    (hread : Quoted.Reads reader (glyphs (p.next quote) (inside ++ quote :: '\n' :: tail)) content
      (glyphs ((p.next quote).after (inside ++ [quote])) ('\n' :: tail)))
    (hrest : (outside (p.after (quote :: inside ++ [quote] ++ ['\n'])) tail
      (.scalar (String.ofList content) false :: tokens) (column :: outer) true).Finishes finished) :
    (outside p (quote :: inside ++ [quote] ++ '\n' :: tail) tokens (column :: outer) keyAllowed).Finishes finished := by
  have hplace : p.line < (p.after (quote :: inside ++ [quote] ++ ['\n'])).line :=
    Place.line_lt_after p (by simp [isBreak])
  have hleft : (skipGap false (glyphs ((p.next quote).after (inside ++ [quote])) ('\n' :: tail))).2 =
      (skipGap false (glyphs (p.after (quote :: inside ++ [quote] ++ ['\n'])) tail)).2 := by
    simp [skipGap, isBreak]
  have hafter := hrest.afterScalar quote tokens keyAllowed false hplace hleft (by simp [skipGap, isBreak])
  simp only [List.cons_append, List.append_assoc, List.nil_append] at hafter ⊢
  have htoken := hdispatch (outside p (quote :: (inside ++ quote :: '\n' :: tail)) tokens (column :: outer) keyAllowed)
    ⟨quote, p.line, p.column, p.offset⟩ (glyphs (p.next quote) (inside ++ quote :: '\n' :: tail)) rfl
  rw [hread _ (Nat.lt_succ_self _)] at htoken
  simp only [Reading.quotedScalar, saveCandidate_outside hdeeper quote] at htoken
  exact hafter.token hgap hcomment (by simpa using Nat.le_of_lt hdeeper) htoken (by simp; omega)

/-- A scalar is read up to the next line, whatever the style in which it is written.
Assumes: it is deeper than the open collections, its lines are indented further, and the next line is not. -/
theorem Finishes.scalar {content : String} {tail : List Char} {column : Nat} {outer : List Nat} (printColumn : Nat)
    (hdeeper : column < p.column) (hindent : column < ScalarStyle.indent)
    (htail : ScalarStyle.Dedents (column + 1) tail)
    (hrest : (outside (p.after (ScalarStyle.print printColumn content.toList ++ ['\n'])) tail
      (scalarToken content :: tokens) (column :: outer) true).Finishes finished) :
    (outside p (ScalarStyle.print printColumn content.toList ++ '\n' :: tail) tokens (column :: outer)
      keyAllowed).Finishes finished := by
  unfold scalarToken reread ScalarStyle.print at *
  cases hstyle : ScalarStyle.choose content.toList with
  | plain =>
    simp only [hstyle] at hrest ⊢
    exact plainScalar printColumn (fitsPlain_of_choose hstyle) hdeeper hindent htail hrest
  | single =>
    have hfits := fitsSingle_of_choose hstyle
    simp only [hstyle] at hrest ⊢
    exact quotedScalar rfl (by decide) hdeeper (fun r glyph rest ↦ token_single)
      (ScalarStyle.readsBack (by simp) hfits (p.next '\'') (printColumn + 1) false) hrest
  | double =>
    simp only [hstyle] at hrest ⊢
    refine quotedScalar rfl (by decide) hdeeper (fun r glyph rest ↦ token_double)
      (ScalarStyle.readsBackDouble content.toList (p.next '"') (printColumn + 1) true false) ?_
    rw [String.ofList_toList]
    exact hrest

end WorkerAdvisor.Yaml.Reading
