import WorkerAdvisor.Report
import WorkerAdvisor.Proofs.Analysis
import WorkerAdvisor.Proofs.Signal.Restyling

/-!
The style of a source makes no difference to its findings.

The rules of the default catalog look for signals only, and the names of its modules hold no quotes and no line ends.
So a source has the findings that it has in another style (`Analysis.findings_eq_of_restyled`). This is used for two
changes of style: each kind of quote is put for the other (`Analysis.findings_swapQuotes`), and a carriage return is
put before each line feed (`Analysis.findings_withReturns`).

The second change is undone by the removal of carriage returns, which may join a word to the next line end. It
restyles those texts only in which each carriage return stands before a line feed (`Source.restyles_withoutReturn`).
-/

set_option autoImplicit false

namespace WorkerAdvisor

namespace Source

/-! ### Replacements that remove nothing -/

/-- A replacement that keeps word characters apart from others keeps whether a text starts with a word. -/
theorem startsWord_flatMap {f : Char → List Char} (hsome : ∀ c, f c ≠ [])
    (hword : ∀ c, ∀ d ∈ f c, Text.isWordChar d = Text.isWordChar c) (cs : List Char) :
    Place.startsWord (cs.flatMap f) = Place.startsWord cs := by
  cases cs with
  | nil => rfl
  | cons c cs =>
    obtain ⟨d, others, hd⟩ := List.exists_cons_of_ne_nil (hsome c)
    have hsame := hword c d (by simp [hd])
    simp [Place.startsWord, hd, hsame]

/-- A replacement that keeps all but style, and removes nothing, restyles every text. -/
theorem restyles_of_ne_nil {f : Char → List Char} (hstyle : ∀ c, ∀ d ∈ f c, unstyled d = unstyled c)
    (hone : ∀ c, unstyled c ≠ '\n' → ∃ d, f c = [d]) (hfeed : ∃ front, f '\n' = front ++ ['\n'])
    (hsome : ∀ c, f c ≠ []) : Restyles f fun _ ↦ True := by
  have hword : ∀ c, ∀ d ∈ f c, Text.isWordChar d = Text.isWordChar c := by
    intro c d hd
    rw [← ignoresStyle_isWordChar d, hstyle c d hd, ignoresStyle_isWordChar c]
  refine ⟨hstyle, hone, hfeed, fun p _ hboundary ↦ ?_, fun before run c after _ _ hrun ↦ ?_⟩
  · have hafter := startsWord_flatMap hsome hword p.after
    have hbefore := startsWord_flatMap (f := List.reverse ∘ f) (by simpa using hsome) (by simpa using hword) p.before
    rw [Place.atWordBoundary, Place.replaced, List.reverse_flatMap, List.reverse_reverse, hafter, hbefore]
    exact hboundary
  · obtain ⟨d, others, rfl⟩ := List.exists_cons_of_ne_nil hrun
    simp [hsome d]

/-! ### Quotes -/

/-- The other kind of quote for a quote. -/
def swapQuote (c : Char) : Char := if c = '\'' then '"' else if c = '"' then '\'' else c

/-- A source with each kind of quote in the place of the other. -/
def swapQuotes (code : String) : String := String.ofList (code.toList.map swapQuote)

theorem swapQuote_cases (c : Char) : c = '\'' ∨ c = '"' ∨ swapQuote c = c := by
  by_cases hsingle : c = '\''
  · exact .inl hsingle
  · by_cases hdouble : c = '"'
    · exact .inr (.inl hdouble)
    · exact .inr (.inr (by simp [swapQuote, hsingle, hdouble]))

/-- Swapping quotes twice changes nothing. -/
theorem swapQuote_swapQuote (c : Char) : swapQuote (swapQuote c) = c := by
  rcases swapQuote_cases c with rfl | rfl | hkept
  · rfl
  · rfl
  · rw [hkept, hkept]

/-- Swapping quotes changes style alone. -/
theorem unstyled_swapQuote (c : Char) : unstyled (swapQuote c) = unstyled c := by
  rcases swapQuote_cases c with rfl | rfl | hkept
  · rfl
  · rfl
  · rw [hkept]

/-- A source with swapped quotes is the source in another style. -/
theorem restyled_swapQuote (code : List Char) : Restyled code (code.map swapQuote) := by
  refine ⟨fun c ↦ [swapQuote c], fun _ ↦ True, restyles_of_ne_nil ?_ ?_ ?_ ?_, trivial, ?_⟩
  · simpa using unstyled_swapQuote
  · exact fun c _ ↦ ⟨swapQuote c, rfl⟩
  · exact ⟨[], rfl⟩
  · simp
  · exact List.map_eq_flatMap

/-! ### Line ends -/

def withReturn (c : Char) : List Char := if c = '\n' then ['\r', '\n'] else [c]

/-- A source with a carriage return before each line feed. -/
def withReturns (code : String) : String := String.ofList (code.toList.flatMap withReturn)

/-- Nothing for a carriage return. -/
def withoutReturn (c : Char) : List Char := if c = '\r' then [] else [c]

/-- Each carriage return of the text stands before a line feed. -/
def ReturnsBeforeFeeds (text : List Char) : Prop :=
  ∀ front rest, text = front ++ '\r' :: rest → ∃ more, rest = '\n' :: more

theorem withReturn_of_ne {c : Char} (hc : c ≠ '\n') : withReturn c = [c] := if_neg hc

theorem withoutReturn_of_ne {c : Char} (hc : c ≠ '\r') : withoutReturn c = [c] := if_neg hc

/-- A source with carriage returns before its line feeds is the source in another style. -/
theorem restyled_withReturn (code : List Char) : Restyled code (code.flatMap withReturn) := by
  refine ⟨withReturn, fun _ ↦ True, restyles_of_ne_nil (fun c ↦ ?_) (fun c hc ↦ ?_) ?_ fun c ↦ ?_, trivial, rfl⟩
  · by_cases hfeed : c = '\n'
    · simp [withReturn, unstyled, hfeed]
    · simp [withReturn_of_ne hfeed]
  · exact ⟨c, withReturn_of_ne fun hfeed ↦ hc (by rw [hfeed]; decide)⟩
  · exact ⟨['\r'], rfl⟩
  · by_cases hfeed : c = '\n'
    · simp [withReturn, hfeed]
    · simp [withReturn_of_ne hfeed]

theorem returnsBeforeFeeds_withReturn {code : List Char} (hcode : '\r' ∉ code) :
    ReturnsBeforeFeeds (code.flatMap withReturn) := by
  induction code with
  | nil => simp [ReturnsBeforeFeeds]
  | cons c code ih =>
    simp only [List.mem_cons, not_or] at hcode
    have hrest := ih hcode.2
    intro front rest htext
    rw [List.flatMap_cons] at htext
    by_cases hfeed : c = '\n'
    · rw [hfeed, withReturn, if_pos rfl] at htext
      rcases front with _ | ⟨d, _ | ⟨e, front⟩⟩
      · simp only [List.cons_append, List.nil_append, List.cons.injEq, true_and] at htext
        exact ⟨_, htext.symm⟩
      · simp at htext
      · simp only [List.cons_append, List.nil_append, List.cons.injEq] at htext
        exact hrest front rest htext.2.2
    · rw [withReturn_of_ne hfeed] at htext
      rcases front with _ | ⟨d, front⟩
      · simp only [List.cons_append, List.nil_append, List.cons.injEq] at htext
        exact absurd htext.1.symm hcode.1
      · simp only [List.cons_append, List.nil_append, List.cons.injEq] at htext
        exact hrest front rest htext.2

/-- Carriage returns that were put in can be taken out again. -/
theorem withoutReturn_withReturn {code : List Char} (hcode : '\r' ∉ code) :
    (code.flatMap withReturn).flatMap withoutReturn = code := by
  induction code with
  | nil => rfl
  | cons c code ih =>
    simp only [List.mem_cons, not_or] at hcode
    have hc : (withReturn c).flatMap withoutReturn = [c] := by
      by_cases hfeed : c = '\n'
      · rw [hfeed]
        rfl
      · rw [withReturn_of_ne hfeed, List.flatMap_singleton, withoutReturn_of_ne (Ne.symm hcode.1)]
    rw [List.flatMap_cons, List.flatMap_append, hc, ih hcode.2]
    rfl

/-- Between a carriage return and its line feed there is no word boundary, so that none is lost. -/
theorem atWordBoundary_withoutReturn {p : Place} (htext : ReturnsBeforeFeeds p.text)
    (hboundary : p.atWordBoundary = true) : (p.replaced withoutReturn).atWordBoundary = true := by
  obtain ⟨before, after⟩ := p
  have hfeed : Text.isWordChar '\n' = false := by decide
  have hreturn : Text.isWordChar '\r' = false := by decide
  have hafter : Place.startsWord (after.flatMap withoutReturn) = Place.startsWord after := by
    rcases after with _ | ⟨c, after⟩
    · rfl
    · by_cases hc : c = '\r'
      · obtain ⟨more, rfl⟩ := htext before.reverse after (by rw [Place.text, hc])
        simp [Place.startsWord, withoutReturn, hc, hfeed, hreturn]
      · simp [Place.startsWord, withoutReturn_of_ne hc]
  have hbefore : Place.startsWord (before.reverse.flatMap withoutReturn).reverse = Place.startsWord before := by
    rcases before with _ | ⟨c, before⟩
    · rfl
    · by_cases hc : c = '\r'
      · obtain ⟨more, rfl⟩ := htext before.reverse after (by simp [Place.text, hc])
        simp [Place.atWordBoundary, Place.startsWord, hc, hfeed, hreturn] at hboundary
      · simp [Place.startsWord, withoutReturn_of_ne hc]
  rw [Place.atWordBoundary, Place.replaced, hbefore, hafter]
  exact hboundary

/-- Taking out carriage returns changes style alone where each stands before a line feed, as it then removes no line
end. -/
theorem restyles_withoutReturn : Restyles withoutReturn ReturnsBeforeFeeds := by
  refine ⟨fun c d hd ↦ ?_, fun c hc ↦ ?_, ⟨[], rfl⟩, fun p ↦ atWordBoundary_withoutReturn,
    fun before run c after htext hc hrun hnone ↦ ?_⟩
  · by_cases hreturn : c = '\r'
    · simp [withoutReturn, hreturn] at hd
    · rw [withoutReturn_of_ne hreturn, List.mem_singleton] at hd
      rw [hd]
  · exact ⟨c, withoutReturn_of_ne fun hreturn ↦ hc (by rw [hreturn]; decide)⟩
  · -- The last character of the run would be a carriage return before `c`.
    obtain ⟨front, last, hsplit⟩ := (List.eq_nil_or_concat run).resolve_left hrun
    rw [List.concat_eq_append] at hsplit
    subst hsplit
    have hlast : withoutReturn last = [] := by
      rw [List.flatMap_append, List.flatMap_singleton] at hnone
      exact (List.append_eq_nil_iff.1 hnone).2
    have hreturn : last = '\r' := Decidable.byContradiction fun hother ↦ by
      simp [withoutReturn_of_ne hother] at hlast
    obtain ⟨more, hmore⟩ := htext (before ++ front) (c :: after) (by simp [hreturn])
    have hfeed : c = '\n' := (List.cons.inj hmore).1
    rw [hfeed] at hc
    exact hc (by decide)

theorem restyled_withoutReturn {code : List Char} (hcode : '\r' ∉ code) :
    Restyled (code.flatMap withReturn) code :=
  ⟨withoutReturn, ReturnsBeforeFeeds, restyles_withoutReturn, returnsBeforeFeeds_withReturn hcode,
    (withoutReturn_withReturn hcode).symm⟩

end Source

namespace Analysis

open Source

/-! ### Findings -/

/-- No name of an unavailable module has a quote or a line end in it. -/
theorem isPlain_of_mem_unavailableModules :
    ∀ module ∈ Catalog.unavailableModules, Source.IsPlainText module.toList := by
  decide +kernel

/-- Each rule of the default catalog looks for a signal that is the same in every style. -/
theorem trigger_default {rule : Rule} (hrule : rule ∈ Catalog.default) :
    ∃ signal : Signal, signal.IsPlain ∧ rule.trigger = signal.detects := by
  rw [Catalog.default, List.mem_append] at hrule
  rcases hrule with hmodule | hother
  · obtain ⟨module, hmem, rfl⟩ := List.mem_map.1 hmodule
    exact ⟨.moduleReference module, isPlain_of_mem_unavailableModules module hmem, rfl⟩
  · simp only [List.mem_cons, List.not_mem_nil, or_false] at hother
    rcases hother with rfl | rfl | rfl | rfl | rfl | rfl | rfl | rfl | rfl
    · exact ⟨.blockingCall, trivial, rfl⟩
    · exact ⟨.timer, trivial, rfl⟩
    · exact ⟨.sharedState, trivial, rfl⟩
    · exact ⟨.unhandledFailure, trivial, rfl⟩
    · exact ⟨.noDefaultExport, trivial, rfl⟩
    · exact ⟨.noFetchHandler, trivial, rfl⟩
    · exact ⟨.requestOnlyHandler, trivial, rfl⟩
    · exact ⟨.noResponse, trivial, rfl⟩
    · exact ⟨.noDeferredWork, trivial, rfl⟩

/-- A source has the same findings in every style. -/
theorem findings_eq_of_restyled {code other : String} (hforth : Restyled code.toList other.toList)
    (hback : Restyled other.toList code.toList) :
    findings Catalog.default other = findings Catalog.default code := by
  refine findings_congr fun rule hrule ↦ ?_
  obtain ⟨signal, hplain, htrigger⟩ := trigger_default hrule
  rw [htrigger]
  exact signal.holds_eq_of_restyled hforth hback hplain

/-- The findings in a source, and so the report on it, do not depend on the kind of its quotes. -/
theorem findings_swapQuotes (code : String) :
    findings Catalog.default (swapQuotes code) = findings Catalog.default code ∧
      Report.render (findings Catalog.default (swapQuotes code)) = Report.render (findings Catalog.default code) := by
  have hforth : Restyled code.toList (swapQuotes code).toList := by
    rw [swapQuotes, String.toList_ofList]
    exact restyled_swapQuote code.toList
  have hback : Restyled (swapQuotes code).toList code.toList := by
    have hagain := restyled_swapQuote (code.toList.map swapQuote)
    rw [List.map_map] at hagain
    have hid : swapQuote ∘ swapQuote = id := funext swapQuote_swapQuote
    rw [hid, List.map_id] at hagain
    rwa [swapQuotes, String.toList_ofList]
  have hfindings := findings_eq_of_restyled hforth hback
  exact ⟨hfindings, congrArg Report.render hfindings⟩

/-- The findings in a source do not depend on whether its lines end in a carriage return as well.
Assumes: no carriage returns in the source at first. -/
theorem findings_withReturns (code : String) (hcode : '\r' ∉ code.toList) :
    findings Catalog.default (withReturns code) = findings Catalog.default code := by
  apply findings_eq_of_restyled
  · rw [withReturns, String.toList_ofList]
    exact restyled_withReturn code.toList
  · rw [withReturns, String.toList_ofList]
    exact restyled_withoutReturn hcode

/-- Line ends within a declaration, within the head of a handler and before a module's name. -/
theorem findings_withReturns_multiline :
    let code := "var\ncache;\nexport default \x7b fetch(request)\n:\nResponse\n\x7b import\n'fs' \x7d \x7d"
    '\r' ∉ code.toList ∧ (findings Catalog.default code).map (·.ruleId) =
        ["node-module-fs", "module-level-state", "missing-context-params"] ∧
      findings Catalog.default (withReturns code) = findings Catalog.default code := by
  intro code
  have hcode : '\r' ∉ code.toList := by decide +kernel
  exact ⟨hcode, by decide +kernel, findings_withReturns code hcode⟩

end Analysis

end WorkerAdvisor
