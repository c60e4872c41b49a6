import WorkerAdvisor.Proofs.Signal.Handler

/-!
The specifiers of a source.

A keyword leads to a specifier, which stands between two quotes of the same kind. What may stand between the keyword and
the quote is given by a rule (`Source.IsLead`), and the search for a module finds the places where its name stands in
quotes behind a lead, perhaps with a scheme (`Source.occursIn_moduleReference_iff`). A specifier ends at the first quote
of the kind that it began with (`Source.IsSpecifier`). So for a name without quotes these are the specifiers that name
the module (`Source.occursIn_moduleReference_iff_exists`).
-/

set_option autoImplicit false

namespace WorkerAdvisor

namespace Source

open Pattern

/-! ### The rules -/

/-- The words that lead to a specifier. -/
def keywords : List String := ["from", "import", "require"]

/-- What leads to a specifier: a keyword, and perhaps a parenthesis, with white space. -/
inductive IsLead : List Char → Prop
  | intro {keyword : String} {gap parenthesis gap' : List Char} : keyword ∈ keywords → IsGap gap →
      parenthesis ∈ [[], ['(']] → IsGap gap' → IsLead (keyword.toList ++ gap ++ parenthesis ++ gap')

/-- The characters that may stand around a specifier. -/
def quotes : List Char := ['\'', '"']

/-- What may stand before the name of a module in a specifier. -/
def schemes : List (List Char) := [[], "node:".toList]

/-- A specifier of a source: what stands between a quote that something leads to and the next quote of this kind. -/
def IsSpecifier (code specifier : List Char) : Prop :=
  ∃ before lead quote after, code = before ++ lead ++ [quote] ++ specifier ++ [quote] ++ after ∧
    ¬ EndsInWord before ∧ IsLead lead ∧ quote ∈ quotes ∧ quote ∉ specifier

/-- The specifier is the name of the module, perhaps with a scheme. -/
def Names (specifier : List Char) (module : String) : Prop := ∃ scheme ∈ schemes, specifier = scheme ++ module.toList

/-! ### What the patterns spell -/

/-- The pattern of a specifier spells the name of the module in quotes, with a scheme or without. -/
theorem spells_specifier (module : String) (quote : Char) :
    Spells (specifier module quote) fun run ↦
      ∃ scheme ∈ schemes, run = [quote] ++ (scheme ++ (module.toList ++ [quote])) := by
  have hquote : Spells (single (· == quote)) fun run ↦ run = [quote] := by
    refine (Spells.single _).congr fun run ↦ ⟨?_, ?_⟩
    · rintro ⟨c, hc, rfl⟩
      rw [beq_iff_eq.1 hc]
    · rintro rfl
      exact ⟨quote, beq_self_eq_true quote, rfl⟩
  have hscheme : Spells (optional (literal "node:")) fun run ↦ run ∈ schemes :=
    (Spells.literal "node:").optional.congr fun run ↦ by simp [schemes, or_comm]
  refine (hquote.followedBy (hscheme.followedBy ((Spells.literal module).followedBy hquote.last))).congr
    fun run ↦ ⟨?_, ?_⟩
  · rintro ⟨-, -, rfl, rfl, scheme, -, rfl, hmem, -, -, rfl, rfl, rfl⟩
    exact ⟨scheme, hmem, rfl⟩
  · rintro ⟨scheme, hmem, rfl⟩
    exact ⟨_, _, rfl, rfl, scheme, _, rfl, hmem, _, _, rfl, rfl, rfl⟩

/-- What follows a keyword. -/
theorem spells_afterKeyword (module : String) :
    Spells (sequence [blanks, optional (literal "("), blanks, either (specifier module '\'') (specifier module '"')])
      fun run ↦ ∃ gap parenthesis gap' quote scheme,
        run = gap ++ (parenthesis ++ (gap' ++ ([quote] ++ (scheme ++ (module.toList ++ [quote]))))) ∧ IsGap gap ∧
          parenthesis ∈ [[], ['(']] ∧ IsGap gap' ∧ quote ∈ quotes ∧ scheme ∈ schemes := by
  have hparenthesis : Spells (optional (literal "(")) fun run ↦ run ∈ [[], ['(']] :=
    (Spells.literal "(").optional.congr fun run ↦ by simp [or_comm]
  refine (spells_blanks.followedBy (hparenthesis.followedBy (spells_blanks.followedBy
    ((spells_specifier module '\'').either (spells_specifier module '"')).last))).congr fun run ↦ ⟨?_, ?_⟩
  · rintro ⟨gap, -, rfl, hgap, parenthesis, -, rfl, hmem, gap', quoted, rfl, hgap', hquoted⟩
    rcases hquoted with ⟨scheme, hscheme, rfl⟩ | ⟨scheme, hscheme, rfl⟩
    · exact ⟨gap, parenthesis, gap', '\'', scheme, rfl, hgap, hmem, hgap', by simp [quotes], hscheme⟩
    · exact ⟨gap, parenthesis, gap', '"', scheme, rfl, hgap, hmem, hgap', by simp [quotes], hscheme⟩
  · rintro ⟨gap, parenthesis, gap', quote, scheme, rfl, hgap, hmem, hgap', hquote, hscheme⟩
    refine ⟨gap, _, rfl, hgap, parenthesis, _, rfl, hmem, gap', _, rfl, hgap', ?_⟩
    simp only [quotes, List.mem_cons, List.not_mem_nil, or_false] at hquote
    rcases hquote with rfl | rfl
    · exact .inl ⟨scheme, hscheme, rfl⟩
    · exact .inr ⟨scheme, hscheme, rfl⟩

/-! ### References -/

/-- A module is referred to where its name, perhaps with a scheme, stands between two quotes of the same kind behind a
lead that begins as a word. -/
theorem occursIn_moduleReference_iff {module : String} {code : List Char} :
    (moduleReference module).occursIn code = true ↔
      ∃ before lead quote scheme after,
        code = before ++ lead ++ [quote] ++ scheme ++ module.toList ++ [quote] ++ after ∧ ¬ EndsInWord before ∧
          IsLead lead ∧ quote ∈ quotes ∧ scheme ∈ schemes := by
  have hkeyword : ∀ keyword ∈ keywords, Place.startsWord keyword.toList = true := by decide
  have hreference : (moduleReference module).occursIn code = true ↔ ∃ keyword ∈ keywords,
      (followedBy (wordFrom keyword) (sequence [blanks, optional (literal "("), blanks,
        either (specifier module '\'') (specifier module '"')])).occursIn code = true := by
    refine occursIn_anyOf_followedBy.trans ?_
    simp [keywords]
  rw [hreference]
  constructor
  · rintro ⟨keyword, hmem, hoccurs⟩
    obtain ⟨before, -, after, rfl, hbefore, gap, parenthesis, gap', quote, scheme, rfl, hgap, hparenthesis, hgap',
      hquote, hscheme⟩ := (occursIn_wordFrom_iff (hkeyword keyword hmem) (spells_afterKeyword module)).1 hoccurs
    exact ⟨before, keyword.toList ++ gap ++ parenthesis ++ gap', quote, scheme, after, by simp, hbefore,
      .intro hmem hgap hparenthesis hgap', hquote, hscheme⟩
  · rintro ⟨before, -, quote, scheme, after, rfl, hbefore,
      @⟨keyword, gap, parenthesis, gap', hmem, hgap, hparenthesis, hgap'⟩, hquote, hscheme⟩
    refine ⟨keyword, hmem, (occursIn_wordFrom_iff (hkeyword keyword hmem) (spells_afterKeyword module)).2 ?_⟩
    exact ⟨before, _, after, by simp, hbefore, gap, parenthesis, gap', quote, scheme, rfl, hgap, hparenthesis, hgap',
      hquote, hscheme⟩

/-- A module whose name holds no quotes is referred to if a specifier names it. -/
theorem occursIn_moduleReference_iff_exists {module : String} (hmodule : ∀ quote ∈ quotes, quote ∉ module.toList)
    {code : List Char} :
    (moduleReference module).occursIn code = true ↔ ∃ specifier, IsSpecifier code specifier ∧ Names specifier module := by
  have hscheme : ∀ scheme ∈ schemes, ∀ quote ∈ quotes, quote ∉ scheme := by
    simp [schemes, quotes]
  rw [occursIn_moduleReference_iff]
  constructor
  · rintro ⟨before, lead, quote, scheme, after, rfl, hbefore, hlead, hquote, hmem⟩
    refine ⟨scheme ++ module.toList, ⟨before, lead, quote, after, by simp, hbefore, hlead, hquote, ?_⟩,
      scheme, hmem, rfl⟩
    rw [List.mem_append, not_or]
    exact ⟨hscheme scheme hmem quote hquote, hmodule quote hquote⟩
  · rintro ⟨-, ⟨before, lead, quote, after, rfl, hbefore, hlead, hquote, -⟩, scheme, hmem, rfl⟩
    exact ⟨before, lead, quote, scheme, after, by simp, hbefore, hlead, hquote, hmem⟩

end Source

end WorkerAdvisor
