import WorkerAdvisor.Proofs.Signal.Handler
import WorkerAdvisor.Proofs.Text.Lines
import WorkerAdvisor.Proofs.Text.Normal
import WorkerAdvisor.Text.Letter

/-!
State that a module shares between requests.

A line of a source declares a variable if it begins, without any indentation, with a declaring word, white space and the
target of the declaration (`Source.Declares`); the white space may run over the end of the line. The search for such a
declaration finds exactly the lines of which the target begins with a letter of ASCII, the underscore or the dollar sign
(`Source.occursIn_topLevelDeclaration_iff`). So state is overlooked if it is declared with other targets alone: with a
pattern in brackets or braces, or with a name that begins with a letter beyond ASCII
(`Signal.detects_sharedState_iff_declares`).
-/

set_option autoImplicit false

namespace WorkerAdvisor

namespace Source

open Pattern

/-! ### Declarations -/

/-- The words that declare variables. -/
def declarators : List String := ["let", "var"]

/-- A text that begins with a declaration, and the first character of its target. -/
inductive BeginsDeclaration (target : Char) : List Char → Prop
  | intro {word : String} {gap rest : List Char} : word ∈ declarators → IsGap gap → gap ≠ [] →
      BeginsDeclaration target (word.toList ++ gap ++ [target] ++ rest)

/-- A line of a source, with all that follows it, begins with a declaration. -/
def Declares (code : List Char) (target : Char) : Prop :=
  ∃ earlier line later, Text.splitOn '\n' code = earlier ++ line :: later ∧
    BeginsDeclaration target (['\n'].intercalate (line :: later))

/-- A character that the target of a declaration can begin with: that of a name, or the opening bracket or brace of a
pattern. -/
def isTargetStart (c : Char) : Bool := Text.isLetter c || c == '_' || c == '$' || c == '[' || c == '\x7b'

/-- A source with a default export that declares a variable at the start of a line. -/
def SharesState (code : List Char) : Prop :=
  "export default".toList <:+: code ∧ ∃ target, isTargetStart target = true ∧ Declares code target

/-- The beginning of a target that is not looked for. -/
def IsOverlooked (target : Char) : Prop :=
  target = '[' ∨ target = '\x7b' ∨ (Text.isLetter target = true ∧ 128 ≤ target.toNat)

/-! ### What the search finds -/

/-- The characters that are looked for are ASCII characters. -/
theorem lt_of_isIdentifierStart {c : Char} (hstart : isIdentifierStart c = true) : c.toNat < 128 := by
  simp only [isIdentifierStart, Bool.or_eq_true, beq_iff_eq] at hstart
  rcases hstart with (halpha | rfl) | rfl
  · exact Text.toNat_lt_of_isAlphanum (by rw [Char.isAlphanum, halpha, Bool.true_or])
  · decide
  · decide

/-- What is looked for are the beginnings of targets that are not overlooked. -/
theorem isIdentifierStart_iff {c : Char} :
    isIdentifierStart c = true ↔ isTargetStart c = true ∧ ¬ IsOverlooked c := by
  constructor
  · intro hstart
    have hascii := lt_of_isIdentifierStart hstart
    refine ⟨?_, ?_⟩
    · simp only [isIdentifierStart, Bool.or_eq_true] at hstart
      simp only [isTargetStart, Text.isLetter_of_lt hascii, Bool.or_eq_true]
      exact .inl (.inl hstart)
    · rintro (rfl | rfl | ⟨-, hbeyond⟩)
      · exact absurd hstart (by decide)
      · exact absurd hstart (by decide)
      · omega
  · rintro ⟨htarget, hlooked⟩
    simp only [isTargetStart, Bool.or_eq_true, beq_iff_eq] at htarget
    simp only [isIdentifierStart, Bool.or_eq_true, beq_iff_eq]
    rcases htarget with (((hletter | hline) | hdollar) | hbracket) | hbrace
    · have hascii : c.toNat < 128 := Nat.lt_of_not_le fun hbeyond ↦ hlooked (.inr (.inr ⟨hletter, hbeyond⟩))
      rw [Text.isLetter_of_lt hascii] at hletter
      exact .inl (.inl hletter)
    · exact .inl (.inr hline)
    · exact .inr hdollar
    · exact absurd (.inl hbracket) hlooked
    · exact absurd (.inr (.inl hbrace)) hlooked

/-- What follows the start of the line where a variable is declared. -/
theorem spells_declaration :
    Spells (sequence [anyOf (literal "let") [literal "var"], blanks1, single isIdentifierStart]) fun run ↦
      ∃ word ∈ declarators, ∃ gap target, run = word.toList ++ (gap ++ [target]) ∧ IsGap gap ∧ gap ≠ [] ∧
        isIdentifierStart target = true := by
  refine ((Spells.anyOf "let" ["var"]).followedBy ((Spells.many1 Text.isBlank).followedBy
    (Spells.single isIdentifierStart).last)).congr fun run ↦ ⟨?_, ?_⟩
  · rintro ⟨-, -, rfl, ⟨word, hword, rfl⟩, gap, -, rfl, ⟨hsome, hgap⟩, target, htarget, rfl⟩
    exact ⟨word, hword, gap, target, rfl, hgap, hsome, htarget⟩
  · rintro ⟨word, hword, gap, target, rfl, hgap, hsome, htarget⟩
    exact ⟨_, _, rfl, ⟨word, hword, rfl⟩, gap, _, rfl, ⟨hsome, hgap⟩, target, htarget, rfl⟩

/-- A line starts at the start of the text and behind each line feed. -/
theorem atLineStart_iff {before after : List Char} :
    Place.atLineStart ⟨before.reverse, after⟩ = true ↔ before = [] ∨ ∃ front, before = front ++ ['\n'] := by
  cases before using List.reverseRecOn with
  | nil => simp [Place.atLineStart]
  | append_singleton front c => simp [Place.atLineStart]

/-- A declaration is found exactly if a line begins with one whose target begins with a letter of ASCII, the underscore or
the dollar sign. -/
theorem occursIn_topLevelDeclaration_iff {code : List Char} :
    topLevelDeclaration.occursIn code = true ↔
      ∃ target, isIdentifierStart target = true ∧ Declares code target := by
  refine (spells_declaration.occursIn_at_iff).trans ⟨?_, ?_⟩
  · rintro ⟨before, -, after, hcode, hstart, word, hword, gap, target, rfl, hgap, hsome, htarget⟩
    obtain ⟨earlier, line, later, hlines, hrest⟩ := Text.exists_parts_iff.2 ⟨before, hcode, atLineStart_iff.1 hstart⟩
    refine ⟨target, htarget, earlier, line, later, hlines, ?_⟩
    have hdeclaration : BeginsDeclaration target (word.toList ++ gap ++ [target] ++ after) := .intro hword hgap hsome
    rw [hrest]
    simpa using hdeclaration
  · rintro ⟨target, htarget, earlier, line, later, hlines, hdeclaration⟩
    generalize hrest : ['\n'].intercalate (line :: later) = rest at hdeclaration
    obtain ⟨before, rfl, hstart⟩ := Text.exists_parts_iff.1 ⟨earlier, line, later, hlines, hrest⟩
    obtain @⟨word, gap, after, hword, hgap, hsome⟩ := hdeclaration
    exact ⟨before, word.toList ++ (gap ++ [target]), after, by simp, atLineStart_iff.2 hstart, word, hword, gap, target,
      rfl, hgap, hsome, htarget⟩

/-- A line that begins with a declaration begins with one of the words. -/
theorem exists_declarator_of_declares {code : List Char} {target : Char} (hdeclares : Declares code target) :
    ∃ line ∈ Text.splitOn '\n' code, ∃ word ∈ declarators, word.toList <+: line := by
  obtain ⟨earlier, line, later, hlines, hdeclaration⟩ := hdeclares
  generalize hrest : ['\n'].intercalate (line :: later) = rest at hdeclaration
  obtain @⟨word, gap, after, hword, -, -⟩ := hdeclaration
  have hfeed : ∀ word ∈ declarators, '\n' ∉ word.toList := by decide
  have hbegins : word.toList <+: ['\n'].intercalate (line :: later) := by
    rw [hrest, List.append_assoc, List.append_assoc]
    exact List.prefix_append _ _
  exact ⟨line, by simp [hlines], word, hword, Text.prefix_part_of_prefix (hfeed word hword) hbegins⟩

end Source

namespace Signal

open Pattern Source

/-- Shared state is found exactly if there is a default export and a line begins with a declaration whose target begins
with a letter of ASCII, the underscore or the dollar sign. That is all the state that a source shares, unless the
targets of all its declarations begin with an opening bracket or brace or with a letter beyond ASCII. No state is found if
no line begins with a declaring word; so declarations with indentation are never counted. -/
theorem detects_sharedState_iff_declares (code : String) :
    (sharedState.detects code = true ↔
      "export default".toList <:+: code.toList ∧
        ∃ target, isIdentifierStart target = true ∧ Declares code.toList target) ∧
      ((sharedState.detects code = true ↔ SharesState code.toList) ↔
        ¬ (SharesState code.toList ∧
          ∀ target, isTargetStart target = true → Declares code.toList target → IsOverlooked target)) ∧
      ((∀ line ∈ Text.splitOn '\n' code.toList, ∀ word ∈ declarators, ¬ word.toList <+: line) →
        sharedState.detects code = false) := by
  have hdetects : sharedState.detects code = true ↔ "export default".toList <:+: code.toList ∧
      ∃ target, isIdentifierStart target = true ∧ Declares code.toList target := by
    rw [detects, holds, Bool.and_eq_true, occursIn_topLevelDeclaration_iff, Text.occursIn_iff, and_comm]
  refine ⟨hdetects, ?_, fun hindented ↦ ?_⟩
  · rw [hdetects]
    constructor
    · rintro hsame ⟨hshares, hoverlooked⟩
      obtain ⟨-, target, hstart, hdeclares⟩ := hsame.2 hshares
      obtain ⟨htarget, hlooked⟩ := isIdentifierStart_iff.1 hstart
      exact hlooked (hoverlooked target htarget hdeclares)
    · intro hnone
      refine ⟨fun ⟨hexport, target, hstart, hdeclares⟩ ↦ ⟨hexport, target, (isIdentifierStart_iff.1 hstart).1, hdeclares⟩,
        fun hshares ↦ ⟨hshares.1, ?_⟩⟩
      by_contra hmissed
      refine hnone ⟨hshares, fun target htarget hdeclares ↦ ?_⟩
      by_contra hlooked
      exact hmissed ⟨target, isIdentifierStart_iff.2 ⟨htarget, hlooked⟩, hdeclares⟩
  · by_contra hfound
    obtain ⟨-, target, -, hdeclares⟩ := hdetects.1 (by simpa using hfound)
    obtain ⟨line, hline, word, hword, hbegins⟩ := exists_declarator_of_declares hdeclares
    exact hindented line hline word hword hbegins

-- The white space may run over the end of the line; a name of another script is overlooked.
example : sharedState.detects "export default \x7b\x7d\nvar\n  hits = 0;" = true ∧
    sharedState.detects "export default \x7b\x7d\nvar \u00e9t\u00e9 = 0;" = false := by decide

/-- Declarations with indentation, behind a space and behind a tab. -/
theorem indented_state_not_counted :
    let code := "export default \x7b\n fetch() \x7b\n\tlet local = 1;\n var other;\n \x7d\n\x7d"
    (∀ line ∈ Text.splitOn '\n' code.toList, ∀ word ∈ declarators, ¬ word.toList <+: line) ∧
      sharedState.detects code = false := by
  intro code
  have hindented : ∀ line ∈ Text.splitOn '\n' code.toList, ∀ word ∈ declarators, ¬ word.toList <+: line := by decide
  exact ⟨hindented, (detects_sharedState_iff_declares code).2.2 hindented⟩

/-- The elements of an array are shared as a single variable is, but the search does not see where they are declared. -/
theorem destructured_state_overlooked :
    let code := "let [hits, misses] = [0, 0];\nexport default \x7b\x7d;"
    SharesState code.toList ∧ sharedState.detects code = false := by
  intro code
  have hexport : "export default".toList <:+: code.toList := Text.occursIn_iff.1 (by decide)
  have hlines : Text.splitOn '\n' code.toList =
      ["let [hits, misses] = [0, 0];".toList, "export default \x7b\x7d;".toList] := by decide
  have hdeclaration : BeginsDeclaration '[' ("let".toList ++ [' '] ++ ['['] ++
      "hits, misses] = [0, 0];\nexport default \x7b\x7d;".toList) :=
    .intro (by decide) (by decide) (by decide)
  exact ⟨⟨hexport, '[', by decide, [], _, _, hlines, hdeclaration⟩, by decide⟩

end Signal

end WorkerAdvisor
