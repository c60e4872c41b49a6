import WorkerAdvisor.Proofs.Signal.Pieces

/-!
The signals that are found by words.

A search with word boundaries and a pass over the text that cuts it into pieces find the same words
(`Source.occursIn_wholeWord_iff`). Where a pattern begins with a word and goes on to a parenthesis, what it finds are
pieces that stand side by side: a call of `fetch` (`Source.occursIn_fetchCall_iff_pieces`), a response that is constructed
(`Source.occursIn_construction_iff_pieces`) or made by a function of its own (`Source.occursIn_maker_iff_pieces`). So the
signals for calls, timers, failures, responses and awaited work are read off from the words of the source and what
stands beside them (`Signal.detects_iff_words`). The name of the function that defers work is the one exception, since it
is looked for within longer words too.
-/

set_option autoImplicit false

namespace WorkerAdvisor

namespace Source

open Pattern

/-! ### Patterns and pieces -/

/-- A word begins at its first character unless the text before it ends in a word. -/
theorem IsWord.begins_iff {word : List Char} (hword : IsWord word) (before after : List Char) :
    Place.atWordBoundary ⟨before.reverse, word ++ after⟩ = true ↔ ¬ EndsInWord before :=
  atWordBoundary_iff_of_startsWord ((startsWord_append hword.ne_nil after).trans hword.startsWord)

/-- A word ends behind its last character unless the text behind it starts with a word. -/
theorem IsWord.ends_iff {word : List Char} (hword : IsWord word) (before after : List Char) :
    Place.atWordBoundary ⟨word.reverse ++ before.reverse, after⟩ = true ↔ Place.startsWord after = false := by
  have hlast : Place.startsWord (word.reverse ++ before.reverse) = true :=
    (startsWord_append (by simpa using hword.ne_nil) _).trans hword.endsInWord
  simp [Place.atWordBoundary, hlast]

/-- One of several words occurs in a text as a pattern if it is one of the words of the text. -/
theorem occursIn_wholeWord_iff {content : String} {others : List String}
    (hwords : ∀ word ∈ content :: others, IsWord word.toList) {code : List Char} :
    (wholeWord content others).occursIn code = true ↔ ∃ word ∈ content :: others, word.toList ∈ words code := by
  rw [wholeWord, wordBoundary, (Spells.anyOf content others).occursIn_between_iff]
  simp only [mem_words_iff]
  constructor
  · rintro ⟨before, -, after, hcode, hbefore, ⟨word, hmem, rfl⟩, hafter⟩
    have hword := hwords word hmem
    exact ⟨word, hmem, before, after, hcode, hword, (hword.begins_iff before after).1 hbefore,
      (hword.ends_iff before after).1 hafter⟩
  · rintro ⟨word, hmem, before, after, hcode, hword, hbefore, hafter⟩
    exact ⟨before, word.toList, after, hcode, (hword.begins_iff before after).2 hbefore, ⟨word, hmem, rfl⟩,
      (hword.ends_iff before after).2 hafter⟩

theorem not_endsInWord_opening (front : List Char) : ¬ EndsInWord (front ++ ['(']) := by
  rw [endsInWord_concat]
  decide

/-- A word and what follows it, up to a parenthesis, occur as a pattern if the pieces of both stand in the text. -/
theorem occursIn_wordFrom_iff_pieces {content : String} (hword : IsWord content.toList) {rest : Pattern}
    {IsRest : List Char → Prop} (hrest : Spells rest IsRest)
    (hopening : ∀ tail, IsRest tail → ∃ front, tail = front ++ ['(']) {code : List Char} :
    (followedBy (wordFrom content) rest).occursIn code = true ↔
      ∃ tail, IsRest tail ∧ pieces (content.toList ++ tail) <:+: pieces code := by
  simp only [occursIn_wordFrom_iff hword.startsWord hrest, pieces_infix_iff]
  constructor
  · rintro ⟨before, tail, after, hcode, hbefore, htail⟩
    refine ⟨tail, htail, before, after, by simpa using hcode, fun hin ↦ absurd hin hbefore, fun hin ↦ ?_⟩
    obtain ⟨front, hfront⟩ := hopening tail htail
    rw [hfront, ← List.append_assoc] at hin
    exact absurd hin (not_endsInWord_opening _)
  · rintro ⟨tail, htail, before, after, hcode, hbefore, -⟩
    refine ⟨before, tail, after, by simpa using hcode, fun hin ↦ ?_, htail⟩
    have hstart := hbefore hin
    rw [startsWord_append hword.ne_nil, hword.startsWord] at hstart
    exact absurd hstart (by simp)

/-! ### Calls -/

theorem isWordChar_of_isGap {gap : List Char} (hgap : IsGap gap) : ∀ c ∈ gap, Text.isWordChar c = false :=
  fun c hc ↦ isWordChar_of_isBlank (hgap c hc)

/-- The pieces of a word before the parenthesis of a call. -/
theorem pieces_call {word gap : List Char} (hword : IsWord word) (hgap : IsGap gap) :
    pieces (word ++ (gap ++ ['('])) = word :: oneByOne (gap ++ ['(']) := by
  have hothers : ∀ c ∈ gap ++ ['('], Text.isWordChar c = false := by
    simp only [List.mem_append, List.mem_singleton]
    rintro c (hc | rfl)
    · exact isWordChar_of_isGap hgap c hc
    · decide
  have hopening := pieces_others_append hothers []
  rw [List.append_nil] at hopening
  rw [pieces_word_append hword (startsWord_gap hgap (by decide) []), hopening]
  exact congrArg (word :: ·) (List.append_nil _)

/-- The function or the method `fetch` before a parenthesis. -/
theorem occursIn_fetchCall_iff_pieces {code : List Char} :
    fetchCall.occursIn code = true ↔
      ∃ gap, IsGap gap ∧ "fetch".toList :: oneByOne (gap ++ ['(']) <:+: pieces code := by
  refine (occursIn_wordFrom_iff_pieces (by decide) spells_opening ?_).trans ?_
  · rintro - ⟨gap, rfl, -⟩
    exact ⟨gap, rfl⟩
  · have hphrase : ∀ gap, IsGap gap →
        pieces ("fetch".toList ++ (gap ++ ['('])) = "fetch".toList :: oneByOne (gap ++ ['(']) :=
      fun gap hgap ↦ pieces_call (by decide) hgap
    constructor
    · rintro ⟨-, ⟨gap, rfl, hgap⟩, hbeside⟩
      exact ⟨gap, hgap, hphrase gap hgap ▸ hbeside⟩
    · rintro ⟨gap, hgap, hbeside⟩
      exact ⟨_, ⟨gap, rfl, hgap⟩, (hphrase gap hgap).symm ▸ hbeside⟩

/-! ### Responses -/

/-- What follows `new` where a response is constructed. -/
theorem spells_construction :
    Spells (sequence [blanks1, literal "Response", blanks, literal "("]) fun run ↦
      ∃ gap gap', run = gap ++ ("Response".toList ++ (gap' ++ ['('])) ∧ IsGap gap ∧ gap ≠ [] ∧ IsGap gap' := by
  refine ((Spells.many1 Text.isBlank).followedBy
    ((Spells.literal "Response").followedBy spells_opening)).congr fun run ↦ ⟨?_, ?_⟩
  · rintro ⟨gap, -, rfl, ⟨hsome, hgap⟩, -, -, rfl, rfl, gap', rfl, hgap'⟩
    exact ⟨gap, gap', rfl, hgap, hsome, hgap'⟩
  · rintro ⟨gap, gap', rfl, hgap, hsome, hgap'⟩
    exact ⟨gap, _, rfl, ⟨hsome, hgap⟩, _, _, rfl, rfl, gap', rfl, hgap'⟩

/-- The names of the functions that make a response. -/
def responseMakers : List String := ["json", "redirect", "error"]

/-- What follows `Response` where one of its functions is called. -/
theorem spells_maker :
    Spells (sequence [literal ".", anyOf (literal "json") [literal "redirect", literal "error"], blanks, literal "("])
      fun run ↦ ∃ maker ∈ responseMakers, ∃ gap, run = ['.'] ++ (maker.toList ++ (gap ++ ['('])) ∧ IsGap gap := by
  refine ((Spells.literal ".").followedBy
    ((Spells.anyOf "json" ["redirect", "error"]).followedBy spells_opening)).congr fun run ↦ ⟨?_, ?_⟩
  · rintro ⟨-, -, rfl, rfl, -, -, rfl, ⟨maker, hmaker, rfl⟩, gap, rfl, hgap⟩
    exact ⟨maker, hmaker, gap, rfl, hgap⟩
  · rintro ⟨maker, hmaker, gap, rfl, hgap⟩
    exact ⟨_, _, rfl, rfl, _, _, rfl, ⟨maker, hmaker, rfl⟩, gap, rfl, hgap⟩

/-- A construction is found where its words and its parenthesis stand among the pieces with nothing but white space
between. -/
theorem occursIn_construction_iff_pieces {code : List Char} :
    (followedBy (wordFrom "new") (sequence [blanks1, literal "Response", blanks, literal "("])).occursIn code = true ↔
      ∃ gap gap', IsGap gap ∧ gap ≠ [] ∧ IsGap gap' ∧
        "new".toList :: (oneByOne gap ++ "Response".toList :: oneByOne (gap' ++ ['('])) <:+: pieces code := by
  refine (occursIn_wordFrom_iff_pieces (by decide) spells_construction ?_).trans ?_
  · rintro - ⟨gap, gap', rfl, -, -, -⟩
    exact ⟨gap ++ ("Response".toList ++ gap'), by simp⟩
  · have hphrase : ∀ gap gap', IsGap gap → gap ≠ [] → IsGap gap' →
        pieces ("new".toList ++ (gap ++ ("Response".toList ++ (gap' ++ ['('])))) =
          "new".toList :: (oneByOne gap ++ "Response".toList :: oneByOne (gap' ++ ['('])) := by
      intro gap gap' hgap hsome hgap'
      have hstart : Place.startsWord (gap ++ ("Response".toList ++ (gap' ++ ['(']))) = false := by
        obtain ⟨c, rest, rfl⟩ := List.exists_cons_of_ne_nil hsome
        exact isWordChar_of_isGap hgap c (by simp)
      rw [pieces_word_append (by decide) hstart, pieces_others_append (isWordChar_of_isGap hgap),
        pieces_call (by decide) hgap']
    constructor
    · rintro ⟨-, ⟨gap, gap', rfl, hgap, hsome, hgap'⟩, hbeside⟩
      exact ⟨gap, gap', hgap, hsome, hgap', hphrase gap gap' hgap hsome hgap' ▸ hbeside⟩
    · rintro ⟨gap, gap', hgap, hsome, hgap', hbeside⟩
      exact ⟨_, ⟨gap, gap', rfl, hgap, hsome, hgap'⟩, (hphrase gap gap' hgap hsome hgap').symm ▸ hbeside⟩

/-- A maker is found where its words and marks stand side by side among the pieces. -/
theorem occursIn_maker_iff_pieces {code : List Char} :
    (followedBy (wordFrom "Response")
      (sequence [literal ".", anyOf (literal "json") [literal "redirect", literal "error"], blanks,
        literal "("])).occursIn code = true ↔
      ∃ maker ∈ responseMakers, ∃ gap, IsGap gap ∧
        "Response".toList :: ['.'] :: maker.toList :: oneByOne (gap ++ ['(']) <:+: pieces code := by
  refine (occursIn_wordFrom_iff_pieces (by decide) spells_maker ?_).trans ?_
  · rintro - ⟨maker, -, gap, rfl, -⟩
    exact ⟨['.'] ++ (maker.toList ++ gap), by simp⟩
  · have hphrase : ∀ maker ∈ responseMakers, ∀ gap, IsGap gap →
        pieces ("Response".toList ++ (['.'] ++ (maker.toList ++ (gap ++ ['('])))) =
          "Response".toList :: ['.'] :: maker.toList :: oneByOne (gap ++ ['(']) := by
      intro maker hmaker gap hgap
      have hword : IsWord maker.toList := by
        revert maker
        decide
      rw [pieces_word_append (by decide) rfl, pieces_others_append (List.forall_mem_singleton.2 rfl), pieces_call hword hgap]
      rfl
    constructor
    · rintro ⟨-, ⟨maker, hmaker, gap, rfl, hgap⟩, hbeside⟩
      exact ⟨maker, hmaker, gap, hgap, hphrase maker hmaker gap hgap ▸ hbeside⟩
    · rintro ⟨maker, hmaker, gap, hgap, hbeside⟩
      exact ⟨_, ⟨maker, hmaker, gap, rfl, hgap⟩, (hphrase maker hmaker gap hgap).symm ▸ hbeside⟩

end Source

namespace Signal

open Pattern Source

def blockingCalls : List String :=
  ["readFileSync", "writeFileSync", "appendFileSync", "existsSync", "readdirSync", "mkdirSync", "statSync",
    "unlinkSync", "execSync", "execFileSync", "spawnSync"]

/-- A single word occurs as a pattern if it is one of the words. -/
theorem occursIn_wholeWord_single_iff {word : String} (hword : IsWord word.toList) {code : List Char} :
    (wholeWord word []).occursIn code = true ↔ word.toList ∈ words code := by
  rw [occursIn_wholeWord_iff (by simpa using hword)]
  simp

/-- The signals that are found by words, said by the words of the source and what stands beside them. -/
theorem detects_iff_words (code : String) :
    (∀ word, word ∈ words code.toList ↔
      ∃ before after, code.toList = before ++ word ++ after ∧ IsWord word ∧ ¬ EndsInWord before ∧
        Place.startsWord after = false) ∧
      (blockingCall.detects code = true ↔ ∃ call ∈ blockingCalls, call.toList ∈ words code.toList) ∧
      (timer.detects code = true ↔
        "setTimeout".toList ∈ words code.toList ∨ "setInterval".toList ∈ words code.toList) ∧
      (unhandledFailure.detects code = true ↔
        "async".toList ∈ words code.toList ∧ "try".toList ∉ words code.toList ∧
          "catch".toList ∉ words code.toList) ∧
      (noFetchHandler.detects code = true ↔
        ¬ ∃ gap, IsGap gap ∧ "fetch".toList :: oneByOne (gap ++ ['(']) <:+: pieces code.toList) ∧
      (noResponse.detects code = true ↔
        "return".toList ∈ words code.toList ∧
          (¬ ∃ gap gap', IsGap gap ∧ gap ≠ [] ∧ IsGap gap' ∧
            "new".toList :: (oneByOne gap ++ "Response".toList :: oneByOne (gap' ++ ['('])) <:+: pieces code.toList) ∧
          ¬ ∃ maker ∈ responseMakers, ∃ gap, IsGap gap ∧
            "Response".toList :: ['.'] :: maker.toList :: oneByOne (gap ++ ['(']) <:+: pieces code.toList) ∧
      (noDeferredWork.detects code = true ↔
        "await".toList ∈ words code.toList ∧ ¬ "waitUntil".toList <:+: code.toList) := by
  have hsingle : ∀ word : String, IsWord word.toList →
      ((wholeWord word []).occursIn code.toList = true ↔ word.toList ∈ words code.toList) :=
    fun word hword ↦ occursIn_wholeWord_single_iff hword
  refine ⟨fun word ↦ mem_words_iff, occursIn_wholeWord_iff (by decide), ?_, ?_, ?_, ?_, ?_⟩
  · refine (occursIn_wholeWord_iff (by decide)).trans ?_
    simp
  · simp only [detects, holds, Bool.and_eq_true, Bool.not_eq_true', Bool.eq_false_iff, ne_eq,
      hsingle "async" (by decide), hsingle "try" (by decide), hsingle "catch" (by decide), and_assoc]
  · rw [detects, holds, Bool.not_eq_true', Bool.eq_false_iff, ne_eq, occursIn_fetchCall_iff_pieces]
  · have hresponse : response.occursIn code.toList = true ↔ _ :=
      (Bool.eq_iff_iff.1 (occursIn_either _ _ code.toList)).trans (Bool.or_eq_true _ _).to_iff
    rw [detects, holds, Bool.and_eq_true, Bool.not_eq_true', Bool.eq_false_iff, ne_eq, hsingle "return" (by decide),
      hresponse, not_or]
    exact and_congr_right' (and_congr (not_congr occursIn_construction_iff_pieces)
      (not_congr occursIn_maker_iff_pieces))
  · rw [detects, holds, Bool.and_eq_true, Bool.not_eq_true', Bool.eq_false_iff, ne_eq, hsingle "await" (by decide),
      Text.occursIn_iff]

end Signal

end WorkerAdvisor
