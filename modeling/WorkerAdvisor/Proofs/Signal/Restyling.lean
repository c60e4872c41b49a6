import WorkerAdvisor.Proofs.Pattern.Replacement
import WorkerAdvisor.Proofs.Signal.Handler

/-!
Sources in another style of quotes and line ends.

No signal tells one kind of quote, or one kind of line end, from another. A replacement restyles some texts
(`Source.Restyles`) if it puts a quote in the place of each quote and line ends in the place of line ends, keeps all
other characters, and in those texts neither makes a word boundary disappear nor removes all of the white space before
a character. If two sources come from each other by such replacements, the same signals are found in both
(`Signal.holds_eq_of_restyled`), as long as the names of modules hold no quotes and no line ends.
-/

set_option autoImplicit false

namespace WorkerAdvisor

namespace Source

open Pattern

/-! ### Style -/

/-- A character in the one style with single quotes and line feeds. -/
def unstyled (c : Char) : Char := if c = '"' then '\'' else if c = '\r' then '\n' else c

/-- A character that is the same in every style. -/
def IsPlain (c : Char) : Prop := c ∉ ['\'', '"', '\n', '\r']

/-- A text that is the same in every style. -/
def IsPlainText (text : List Char) : Prop := ∀ c ∈ text, IsPlain c

/-- A class of characters that no change of style changes. -/
def IgnoresStyle (holds : Char → Bool) : Prop := ∀ c, holds (unstyled c) = holds c

instance : DecidablePred IsPlain := fun c ↦ inferInstanceAs (Decidable (c ∉ ['\'', '"', '\n', '\r']))

instance : DecidablePred IsPlainText := List.decidableBAll IsPlain

/-- Only double quotes and carriage returns differ from their form in the one style. -/
theorem unstyled_cases (c : Char) : c = '"' ∨ c = '\r' ∨ unstyled c = c := by
  by_cases hdouble : c = '"'
  · exact .inl hdouble
  · by_cases hreturn : c = '\r'
    · exact .inr (.inl hreturn)
    · exact .inr (.inr (by simp [unstyled, hdouble, hreturn]))

/-- A class ignores style if it tells neither the quotes apart nor the line ends. -/
theorem ignoresStyle_of_eq {holds : Char → Bool} (hquote : holds '\'' = holds '"') (hline : holds '\n' = holds '\r') :
    IgnoresStyle holds := by
  intro c
  rcases unstyled_cases c with rfl | rfl | hkept
  · exact hquote
  · exact hline
  · rw [hkept]

theorem ignoresStyle_isWordChar : IgnoresStyle Text.isWordChar := ignoresStyle_of_eq (by decide) (by decide)

theorem ignoresStyle_isBlank : IgnoresStyle Text.isBlank := ignoresStyle_of_eq (by decide) (by decide)

theorem ignoresStyle_isIdentifierStart : IgnoresStyle isIdentifierStart := ignoresStyle_of_eq (by decide) (by decide)

theorem quote_of_unstyled_eq {c : Char} (hquote : unstyled c = '\'') : c = '\'' ∨ c = '"' := by
  rcases unstyled_cases c with rfl | rfl | hkept
  · exact .inr rfl
  · exact absurd hquote (by decide)
  · exact .inl (hkept.symm.trans hquote)

/-- A plain character has no other form in any style. -/
theorem eq_of_unstyled_eq {c d : Char} (hplain : IsPlain c) (hsame : unstyled d = c) : d = c := by
  rcases unstyled_cases d with rfl | rfl | hkept
  · exact absurd hplain (by rw [← hsame]; decide)
  · exact absurd hplain (by rw [← hsame]; decide)
  · exact hkept.symm.trans hsame

theorem unstyled_of_isPlain {c : Char} (hplain : IsPlain c) : unstyled c = c := by
  rcases unstyled_cases c with rfl | rfl | hkept
  · exact absurd hplain (by decide)
  · exact absurd hplain (by decide)
  · exact hkept

/-- A replacement that changes the style of the texts with a property, and nothing else. -/
structure Restyles (f : Char → List Char) (IsOf : List Char → Prop) : Prop where
  /-- What stands for a character differs from it in style only. -/
  unstyled_eq : ∀ c, ∀ d ∈ f c, unstyled d = unstyled c
  /-- All but line ends are replaced by one character. -/
  one : ∀ c, unstyled c ≠ '\n' → ∃ d, f c = [d]
  /-- A line that begins after a line feed still does. -/
  lineFeed : ∃ front, f '\n' = front ++ ['\n']
  /-- A word boundary stays one. -/
  boundary : ∀ p : Place, IsOf p.text → p.atWordBoundary = true → (p.replaced f).atWordBoundary = true
  /-- What stands before a character that is no line end does not disappear. -/
  solid : ∀ before run c after, IsOf (before ++ run ++ c :: after) → unstyled c ≠ '\n' → run ≠ [] → run.flatMap f ≠ []

/-- Some replacement that restyles the source gives the other one. -/
def Restyled (code other : List Char) : Prop :=
  ∃ f IsOf, Restyles f IsOf ∧ IsOf code ∧ other = code.flatMap f

/-- Every match of the pattern begins with a character that is no line end. -/
def BeginsSolid (pattern : Pattern) : Prop :=
  ∀ p q : Place, q ∈ pattern.ends p → ∃ c rest, p.after = c :: rest ∧ unstyled c ≠ '\n'

/-- A pattern begins with no line end if its first part does not. -/
theorem BeginsSolid.followedBy {first : Pattern} (hfirst : BeginsSolid first) (second : Pattern) :
    BeginsSolid (.followedBy first second) := by
  intro p q hends
  obtain ⟨middle, hmiddle, -⟩ := mem_ends_followedBy.1 hends
  exact hfirst p middle hmiddle

/-- A character of a class without line ends is no line end. -/
theorem beginsSolid_single {holds : Char → Bool} (hholds : ∀ c, holds c = true → unstyled c ≠ '\n') :
    BeginsSolid (single holds) := by
  intro p q hends
  obtain ⟨c, hc, hafter, -⟩ := mem_ends_single.1 hends
  exact ⟨c, q.after, hafter, hholds c hc⟩

theorem beginsSolid_literal {content : String}
    (hstart : ∃ c rest, content.toList = c :: rest ∧ unstyled c ≠ '\n') : BeginsSolid (literal content) := by
  intro p q hends
  obtain ⟨run, rfl, hafter, -⟩ := (Spells.literal content p q).1 hends
  obtain ⟨c, rest, hcontent, hc⟩ := hstart
  exact ⟨c, rest ++ q.after, by rw [hafter, hcontent, List.cons_append], hc⟩

namespace Restyles

variable {f : Char → List Char} {IsOf : List Char → Prop} (hf : Restyles f IsOf)

include hf

/-- A plain character is kept. -/
theorem plain {c : Char} (hplain : IsPlain c) : f c = [c] := by
  have hstyle : unstyled c = c := unstyled_of_isPlain hplain
  have hline : unstyled c ≠ '\n' := by
    rw [hstyle]
    rintro rfl
    exact absurd hplain (by decide)
  obtain ⟨d, hd⟩ := hf.one c hline
  have hsame : d = c := eq_of_unstyled_eq hplain ((hf.unstyled_eq c d (by simp [hd])).trans hstyle)
  rw [hd, hsame]

theorem plain_run {run : List Char} (hplain : IsPlainText run) : run.flatMap f = run := by
  induction run with
  | nil => rfl
  | cons c run ih =>
    rw [List.flatMap_cons, hf.plain (hplain c (by simp)), ih fun d hd ↦ hplain d (by simp [hd])]
    rfl

/-- What stands for a character is in the same classes that ignore style. -/
theorem holds_of_mem {holds : Char → Bool} (hignores : IgnoresStyle holds) {c : Char} (hc : holds c = true) :
    ∀ d ∈ f c, holds d = true := by
  intro d hd
  rw [← hignores d, hf.unstyled_eq c d hd, hignores c, hc]

theorem holds_of_mem_flatMap {holds : Char → Bool} (hignores : IgnoresStyle holds) {run : List Char}
    (hall : ∀ c ∈ run, holds c = true) : ∀ d ∈ run.flatMap f, holds d = true := by
  intro d hd
  obtain ⟨c, hc, hd⟩ := List.mem_flatMap.1 hd
  exact hf.holds_of_mem hignores (hall c hc) d hd

/-! ### Patterns that are kept -/

/-- A row of a class that ignores style is kept. -/
theorem keeps_many {holds : Char → Bool} (hignores : IgnoresStyle holds) : Keeps f IsOf (many holds) :=
  .many fun _ hc ↦ hf.holds_of_mem hignores hc

/-- A class that ignores style and has no line ends is kept, as one character stands for each of its characters. -/
theorem keeps_single {holds : Char → Bool} (hignores : IgnoresStyle holds) (hline : holds '\n' = false) :
    Keeps f IsOf (single holds) := by
  refine .single fun c hc ↦ ?_
  have hsolid : unstyled c ≠ '\n' := by
    intro hfeed
    rw [← hignores c, hfeed, hline] at hc
    exact absurd hc (by simp)
  obtain ⟨d, hd⟩ := hf.one c hsolid
  exact ⟨d, hf.holds_of_mem hignores hc d (by simp [hd]), hd⟩

theorem keeps_many1 {holds : Char → Bool} (hignores : IgnoresStyle holds) (hline : holds '\n' = false) :
    Keeps f IsOf (many1 holds) :=
  .followedBy (hf.keeps_single hignores hline) (hf.keeps_many hignores)

/-- A plain literal is kept, as every character of it is. -/
theorem keeps_literal (content : String) (hplain : IsPlainText content.toList := by decide) :
    Keeps f IsOf (literal content) := by
  refine .ofSpells (Spells.literal content) fun before run after _ hrun ↦ ?_
  rw [hrun, hf.plain_run hplain]

/-- Word boundaries are kept, as a restyling makes none of them disappear. -/
theorem keeps_wordBoundary : Keeps f IsOf wordBoundary := .only hf.boundary

/-- Starts of lines are kept. -/
theorem keeps_lineStart : Keeps f IsOf lineStart := by
  refine .only fun p _ hstart ↦ ?_
  obtain ⟨before, after⟩ := p
  cases before with
  | nil => rfl
  | cons c before =>
    have hfeed : c = '\n' := by simpa [Place.atLineStart] using hstart
    obtain ⟨front, hfront⟩ := hf.lineFeed
    simp [Place.replaced, Place.atLineStart, hfeed, hfront]

/-- White space, or what else may hold line ends, does not disappear before a solid character. -/
theorem keeps_many1_followedBy {holds : Char → Bool} (hignores : IgnoresStyle holds) {next : Pattern}
    (hsolid : BeginsSolid next) (hnext : Keeps f IsOf next) : Keeps f IsOf (followedBy (many1 holds) next) := by
  intro p q htext hends
  obtain ⟨middle, hmiddle, hq⟩ := mem_ends_followedBy.1 hends
  obtain ⟨run, ⟨hsome, hall⟩, hsteps⟩ := (Spells.many1 holds p middle).1 hmiddle
  obtain ⟨c, rest, hafter, hc⟩ := hsolid middle q hq
  have hsplit : p.text = p.before.reverse ++ run ++ c :: rest := by
    rw [Place.text, hsteps.1, hafter, List.append_assoc]
  have hkept : run.flatMap f ≠ [] := hf.solid p.before.reverse run c rest (by rwa [← hsplit]) hc hsome
  refine mem_ends_followedBy.2 ⟨middle.replaced f, (Spells.many1 holds _ _).2 ⟨run.flatMap f, ⟨hkept, ?_⟩, ?_⟩, ?_⟩
  · exact hf.holds_of_mem_flatMap hignores hall
  · exact hsteps.replaced f
  · exact hnext middle q (by rwa [hsteps.text_eq]) hq

theorem keeps_blanks : Keeps f IsOf blanks := hf.keeps_many ignoresStyle_isBlank

theorem keeps_wordFrom (content : String) (hplain : IsPlainText content.toList := by decide) :
    Keeps f IsOf (wordFrom content) :=
  .followedBy hf.keeps_wordBoundary (hf.keeps_literal content hplain)

/-- One of several texts. -/
theorem keeps_anyLiteral (first : String) (others : List String)
    (hplain : ∀ content ∈ first :: others, IsPlainText content.toList) :
    Keeps f IsOf (anyOf (literal first) (others.map literal)) := by
  refine .anyOf (hf.keeps_literal first (hplain first (by simp))) fun pattern hpattern ↦ ?_
  obtain ⟨other, hother, rfl⟩ := List.mem_map.1 hpattern
  exact hf.keeps_literal other (hplain other (by simp [hother]))

/-- A choice of plain whole words is kept. -/
theorem keeps_wholeWord {first : String} {others : List String}
    (hplain : ∀ content ∈ first :: others, IsPlainText content.toList) : Keeps f IsOf (wholeWord first others) :=
  .followedBy hf.keeps_wordBoundary
    (.followedBy (hf.keeps_anyLiteral first others hplain) (.followedBy hf.keeps_wordBoundary .nothing))

theorem keeps_identifier : Keeps f IsOf identifier := by
  have hpart : IgnoresStyle isIdentifierPart := ignoresStyle_of_eq (by decide) (by decide)
  exact .followedBy (hf.keeps_single ignoresStyle_isIdentifierStart (by decide)) (hf.keeps_many hpart)

theorem keeps_parameter : Keeps f IsOf parameter := by
  have hpart : IgnoresStyle isAnnotationPart := ignoresStyle_of_eq (by decide) (by decide)
  have hannotation : Keeps f IsOf (sequence [literal ":", blanks, many1 isAnnotationPart]) :=
    .followedBy (hf.keeps_literal ":")
      (.followedBy hf.keeps_blanks (.followedBy (hf.keeps_many1 hpart (by decide)) .nothing))
  exact .followedBy hf.keeps_identifier (.optional (.followedBy hf.keeps_blanks hannotation))

theorem keeps_singleParameter : Keeps f IsOf singleParameter :=
  .followedBy (hf.keeps_literal "(") (.followedBy hf.keeps_blanks
    (.followedBy hf.keeps_parameter (.followedBy hf.keeps_blanks
      (.followedBy (hf.keeps_literal ")") .nothing))))

/-- A result type and the white space around it. -/
theorem keeps_result {part : Char → Bool} (hignores : IgnoresStyle part)
    (hblank : ∀ c, Text.isBlank c = true → part c = true) (stop : String) (hplain : IsPlainText stop.toList)
    (hstop : ∃ c rest, stop.toList = c :: rest ∧ unstyled c ≠ '\n') :
    Keeps f IsOf (sequence [blanks, optional (sequence [literal ":", blanks, many1 part]), blanks, literal stop]) := by
  have hcolon : [':'].flatMap f = [':'] := hf.plain_run (by decide)
  refine .ofSpells (spells_result hblank) fun before run after htext hrun ↦ ?_
  obtain ⟨gap, result, rfl, hgap, hresult⟩ := hrun
  obtain ⟨c, rest, hstart, hc⟩ := hstop
  refine ⟨gap.flatMap f, result.flatMap f, ?_, ?_, ?_⟩
  · rw [List.flatMap_append, List.flatMap_append, hf.plain_run hplain]
  · exact hf.holds_of_mem_flatMap ignoresStyle_isBlank hgap
  · cases hresult with
    | untyped => exact .untyped
    | @typed type hsome hall =>
      rw [List.flatMap_append, hcolon]
      have htype : type.flatMap f ≠ [] :=
        hf.solid (before ++ gap ++ [':']) type c (rest ++ after) (by simpa [hstart] using htext) hc hsome
      exact .typed htype (hf.holds_of_mem_flatMap hignores hall)

/-- Calls are kept. -/
theorem keeps_fetchCall : Keeps f IsOf fetchCall :=
  .followedBy (hf.keeps_wordFrom "fetch")
    (.followedBy hf.keeps_blanks (.followedBy (hf.keeps_literal "(") .nothing))

/-- Heads of methods are kept, although their result types may go over line ends. -/
theorem keeps_methodHead : Keeps f IsOf methodHead := by
  have hpart : IgnoresStyle isMethodResultPart := ignoresStyle_of_eq (by decide) (by decide)
  have hresult := hf.keeps_result hpart isMethodResultPart_of_isBlank "\x7b" (by decide) ⟨_, _, rfl, by decide⟩
  exact .followedBy hf.keeps_blanks (.followedBy hf.keeps_singleParameter hresult)

/-- Heads of arrow functions are kept. -/
theorem keeps_arrowHead : Keeps f IsOf arrowHead := by
  have hpart : IgnoresStyle isArrowResultPart := ignoresStyle_of_eq (by decide) (by decide)
  have hresult := hf.keeps_result hpart isArrowResultPart_of_isBlank "=>" (by decide) ⟨_, _, rfl, by decide⟩
  have hasync : Keeps f IsOf (sequence [literal "async", blanks]) :=
    .followedBy (hf.keeps_literal "async") (.followedBy hf.keeps_blanks .nothing)
  have hparameters : Keeps f IsOf (either singleParameter identifier) :=
    .either (hf.keeps_singleParameter.left _) (hf.keeps_identifier.right _)
  exact .followedBy hf.keeps_blanks (.followedBy (hf.keeps_literal ":")
    (.followedBy hf.keeps_blanks (.followedBy hasync.optional (.followedBy hparameters hresult))))

/-- Responses are kept. -/
theorem keeps_response : Keeps f IsOf response := by
  have hopening : Keeps f IsOf (sequence [blanks, literal "("]) :=
    .followedBy hf.keeps_blanks (.followedBy (hf.keeps_literal "(") .nothing)
  have hcall : Keeps f IsOf (sequence [literal "Response", blanks, literal "("]) :=
    .followedBy (hf.keeps_literal "Response") hopening
  have hsolid : BeginsSolid (sequence [literal "Response", blanks, literal "("]) :=
    (beginsSolid_literal ⟨_, _, rfl, by decide⟩).followedBy _
  have hmaker : Keeps f IsOf (anyOf (literal "json") [literal "redirect", literal "error"]) :=
    hf.keeps_anyLiteral "json" ["redirect", "error"] (by decide)
  have hnew := Carries.followedBy (hf.keeps_wordFrom "new")
    (hf.keeps_many1_followedBy ignoresStyle_isBlank hsolid hcall)
  have hstatic := Carries.followedBy (hf.keeps_wordFrom "Response")
    (.followedBy (hf.keeps_literal ".") (.followedBy hmaker hopening))
  exact .either (hnew.left _) (hstatic.right _)

/-- Declarations at the start of a line are kept. -/
theorem keeps_topLevelDeclaration : Keeps f IsOf topLevelDeclaration := by
  have hkeyword : Keeps f IsOf (anyOf (literal "let") [literal "var"]) :=
    hf.keeps_anyLiteral "let" ["var"] (by decide)
  have hname : Keeps f IsOf (sequence [single isIdentifierStart]) :=
    .followedBy (hf.keeps_single ignoresStyle_isIdentifierStart (by decide)) .nothing
  have hsolid : BeginsSolid (sequence [single isIdentifierStart]) := by
    refine (beginsSolid_single fun c hc hline ↦ ?_).followedBy _
    rw [← ignoresStyle_isIdentifierStart c, hline] at hc
    exact absurd hc (by decide)
  exact .followedBy hf.keeps_lineStart
    (.followedBy hkeyword (hf.keeps_many1_followedBy ignoresStyle_isBlank hsolid hname))

/-- A specifier in one kind of quotes becomes the same specifier in the other kind. -/
theorem carries_specifier {module : String} (hplain : IsPlainText module.toList) {quote newQuote : Char}
    (hquote : f quote = [newQuote]) : Carries f IsOf (specifier module quote) (specifier module newQuote) := by
  have hsame : Carries f IsOf (single (· == quote)) (single (· == newQuote)) :=
    .single fun c hc ↦ ⟨newQuote, beq_self_eq_true newQuote, by rw [beq_iff_eq.1 hc, hquote]⟩
  exact .followedBy hsame (.followedBy (hf.keeps_literal "node:").optional
    (.followedBy (hf.keeps_literal module hplain) (.followedBy hsame .nothing)))

/-- A quote is replaced by a quote, and the one that ends a specifier by the same as the one that begins it. -/
theorem keeps_moduleReference {module : String} (hplain : IsPlainText module.toList) :
    Keeps f IsOf (moduleReference module) := by
  have hspecifier : ∀ quote, unstyled quote = '\'' → Carries f IsOf (specifier module quote)
      (either (specifier module '\'') (specifier module '"')) := by
    intro quote hstyle
    obtain ⟨newQuote, hquote⟩ := hf.one quote (by rw [hstyle]; decide)
    have hnew : unstyled newQuote = '\'' := by rw [hf.unstyled_eq quote newQuote (by simp [hquote]), hstyle]
    rcases quote_of_unstyled_eq hnew with rfl | rfl
    · exact (hf.carries_specifier hplain hquote).left _
    · exact (hf.carries_specifier hplain hquote).right _
  have hword : Keeps f IsOf (anyOf (wordFrom "from") [wordFrom "import", wordFrom "require"]) := by
    refine .anyOf (hf.keeps_wordFrom "from") ?_
    simp only [List.forall_mem_cons, List.not_mem_nil, false_implies, implies_true, and_true]
    exact ⟨hf.keeps_wordFrom "import", hf.keeps_wordFrom "require"⟩
  exact .followedBy hword (.followedBy hf.keeps_blanks
    (.followedBy (hf.keeps_literal "(").optional (.followedBy hf.keeps_blanks
      (.followedBy (.either (hspecifier '\'' (by decide)) (hspecifier '"' (by decide))) .nothing))))

end Restyles

/-! ### Occurrences in another style -/

section Occurrences

variable {code other : List Char} (hforth : Restyled code other) (hback : Restyled other code)

include hforth hback

/-- A pattern that all changes of style keep occurs in both of two restyled sources or in neither. -/
theorem occursIn_eq_of_restyled {pattern : Pattern}
    (hkeeps : ∀ {f : Char → List Char} {IsOf : List Char → Prop}, Restyles f IsOf → Keeps f IsOf pattern) :
    pattern.occursIn other = pattern.occursIn code := by
  have hoccurs : ∀ {first second : List Char}, Restyled first second → pattern.occursIn first = true →
      pattern.occursIn second = true := by
    rintro first - ⟨f, IsOf, hf, hfirst, rfl⟩
    exact (hkeeps hf).occursIn hfirst
  exact Bool.eq_iff_iff.2 ⟨hoccurs hback, hoccurs hforth⟩

/-- A plain text is in both of two restyled sources or in neither. -/
theorem text_occursIn_eq_of_restyled {needle : List Char} (hplain : IsPlainText needle) :
    Text.occursIn needle other = Text.occursIn needle code := by
  have hoccurs : ∀ {first second : List Char}, Restyled first second → Text.occursIn needle first = true →
      Text.occursIn needle second = true := by
    rintro first - ⟨f, IsOf, hf, -, rfl⟩ hneedle
    obtain ⟨before, after, rfl⟩ := Text.occursIn_iff.1 hneedle
    refine Text.occursIn_iff.2 ⟨before.flatMap f, after.flatMap f, ?_⟩
    rw [List.flatMap_append, List.flatMap_append, hf.plain_run hplain]
  exact Bool.eq_iff_iff.2 ⟨hoccurs hback, hoccurs hforth⟩

/-- What `async` stands before is carried over without it. -/
theorem method_occursIn_eq_of_restyled :
    singleParameterMethod.occursIn other = singleParameterMethod.occursIn code := by
  have hmethod : ∀ text, singleParameterMethod.occursIn text =
      (followedBy (wordFrom "fetch") methodHead).occursIn text := occursIn_optional_followedBy _ _
  rw [hmethod, hmethod]
  exact occursIn_eq_of_restyled hforth hback fun hf ↦
    .followedBy (hf.keeps_wordFrom "fetch") hf.keeps_methodHead

end Occurrences

end Source

namespace Signal

/-- The name of a module, if the signal has one, is the same in every style. -/
def IsPlain : Signal → Prop
  | moduleReference module => Source.IsPlainText module.toList
  | _ => True

open Source in
/-- A signal is found in a source if it is found in the same source in another style. -/
theorem holds_eq_of_restyled {code other : List Char} (hforth : Restyled code other) (hback : Restyled other code)
    {signal : Signal} (hplain : signal.IsPlain) : signal.holds other = signal.holds code := by
  have hpattern := @occursIn_eq_of_restyled code other hforth hback
  have hwords : ∀ {first others}, (∀ content ∈ first :: others, Source.IsPlainText content.toList) →
      (Pattern.wholeWord first others).occursIn other = (Pattern.wholeWord first others).occursIn code :=
    fun hwords ↦ hpattern fun hf ↦ hf.keeps_wholeWord hwords
  have hneedle := @text_occursIn_eq_of_restyled code other hforth hback
  cases signal with
  | moduleReference module => exact hpattern fun hf ↦ hf.keeps_moduleReference hplain
  | blockingCall => exact hwords (by decide)
  | timer => exact hwords (by decide)
  | defaultExport => exact hneedle (by decide)
  | sharedState => rw [holds, holds, hpattern Restyles.keeps_topLevelDeclaration, hneedle (by decide)]
  | unhandledFailure => rw [holds, holds, hwords (by decide), hwords (by decide), hwords (by decide)]
  | noDefaultExport => rw [holds, holds, hneedle (by decide)]
  | noFetchHandler => rw [holds, holds, hpattern Restyles.keeps_fetchCall]
  | requestOnlyHandler =>
    have harrow : singleParameterArrow.occursIn other = singleParameterArrow.occursIn code :=
      hpattern fun hf ↦ .followedBy (hf.keeps_wordFrom "fetch") hf.keeps_arrowHead
    rw [holds, holds, method_occursIn_eq_of_restyled hforth hback, harrow]
  | noResponse => rw [holds, holds, hwords (by decide), hpattern Restyles.keeps_response]
  | noDeferredWork => rw [holds, holds, hwords (by decide), hneedle (by decide)]

end Signal

end WorkerAdvisor
