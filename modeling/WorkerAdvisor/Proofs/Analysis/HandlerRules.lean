import WorkerAdvisor.Proofs.Analysis
import WorkerAdvisor.Proofs.Signal.Handler

/-!
What the rules on fetch handlers take for a handler.

A call of `fetch` with one argument reads like the head of a method with one parameter, and the result type of a head
may be any text without a few characters. So an awaited call is taken for a handler exactly if the head of one goes on
after the word (`Signal.detects_requestOnlyHandler_iff_of_awaited`), as it does in a conditional expression whose other
branch is an object.

One rule finds no handler where no call and no method named `fetch` stands, the other one finds a handler with one
parameter, which may be a property that holds an arrow function. The default catalog reports both exactly if there is
such a property, and neither a call nor a method (`Analysis.both_handler_rules_apply_iff`).
-/

set_option autoImplicit false

namespace WorkerAdvisor

open Source

/-! ### Awaited calls -/

namespace Source

/-- The characters end in the word `await` and white space. -/
def EndsInAwait (before : List Char) : Prop :=
  ∃ front gap, before = front ++ "await".toList ++ gap ∧ ¬ EndsInWord front ∧ IsGap gap ∧ gap ≠ []

/-- Every word `fetch` of the source is awaited. -/
def AwaitsEveryFetch (code : List Char) : Prop :=
  ∀ before after, code = before ++ "fetch".toList ++ after → ¬ EndsInWord before →
    Place.startsWord after = false → EndsInAwait before

/-- White space stands behind the word `await`, so that no word ends there. -/
theorem EndsInAwait.not_endsInWord {before : List Char} (hawait : EndsInAwait before) : ¬ EndsInWord before := by
  obtain ⟨front, gap, rfl, -, hgap, hsome⟩ := hawait
  obtain ⟨others, last, hsplit⟩ := (List.eq_nil_or_concat gap).resolve_left hsome
  rw [List.concat_eq_append] at hsplit
  subst hsplit
  have hlast : Text.isWordChar last = false := isWordChar_of_isBlank (hgap last (by simp))
  simp [EndsInWord, Place.startsWord, hlast]

/-- A head begins with white space or a mark, and so ends the word before it. -/
theorem startsWord_head {head : List Char} (hhead : IsMethodHead head ∨ IsArrowHead head) (after : List Char) :
    Place.startsWord (head ++ after) = false := by
  rcases hhead with hmethod | harrow
  · obtain ⟨hgap, hparameters, -, -⟩ := hmethod
    cases hparameters with
    | intro => simpa using startsWord_gap hgap (c := '(') (by decide) _
  · obtain ⟨hgap, -, -, -, -, -⟩ := harrow
    simpa using startsWord_gap hgap (c := ':') (by decide) _

/-- A source with a single `fetch`, which is awaited. -/
theorem awaitsEveryFetch_of_single {code : List Char} (front gap : List Char) (hfront : ¬ EndsInWord front)
    (hgap : IsGap gap) (hsome : gap ≠ [])
    (hsingle : ∀ p ∈ Place.all code, "fetch".toList.isPrefixOf p.after = true →
      p.before.reverse = front ++ "await".toList ++ gap) : AwaitsEveryFetch code := by
  intro before rest hsplit _ _
  have hplace : (⟨before.reverse, "fetch".toList ++ rest⟩ : Place) ∈ Place.all code := by
    rw [Pattern.mem_all, hsplit, List.reverse_reverse, List.append_assoc]
  have hbefore := hsingle _ hplace (List.isPrefixOf_iff_prefix.2 (List.prefix_append _ _))
  rw [List.reverse_reverse] at hbefore
  exact ⟨front, gap, hbefore, hfront, hgap, hsome⟩

end Source

namespace Signal

/-- A source in which every `fetch` is awaited is taken to hold a handler with one parameter exactly if the head of
one goes on after an awaited `fetch`.
Assumes: every word `fetch` follows the word `await` and white space. -/
theorem detects_requestOnlyHandler_iff_of_awaited (code : String) (hawaits : AwaitsEveryFetch code.toList) :
    requestOnlyHandler.detects code = true ↔
      ∃ before head after, code.toList = before ++ "fetch".toList ++ head ++ after ∧ EndsInAwait before ∧
        (IsMethodHead head ∨ IsArrowHead head) := by
  rw [detects, holds, Bool.or_eq_true, occursIn_method_iff, occursIn_arrow_iff]
  constructor
  · have hawaited : ∀ before head after, code.toList = before ++ "fetch".toList ++ head ++ after →
        ¬ EndsInWord before → (IsMethodHead head ∨ IsArrowHead head) → EndsInAwait before := by
      intro before head after hcode hbefore hhead
      exact hawaits before (head ++ after) (by rw [hcode, List.append_assoc]) hbefore (startsWord_head hhead after)
    rintro (⟨before, head, after, hcode, hbefore, hmethod⟩ | ⟨before, head, after, hcode, hbefore, harrow⟩)
    · exact ⟨before, head, after, hcode, hawaited before head after hcode hbefore (.inl hmethod), .inl hmethod⟩
    · exact ⟨before, head, after, hcode, hawaited before head after hcode hbefore (.inr harrow), .inr harrow⟩
  · rintro ⟨before, head, after, hcode, hawait, hmethod | harrow⟩
    · exact .inl ⟨before, head, after, hcode, hawait.not_endsInWord, hmethod⟩
    · exact .inr ⟨before, head, after, hcode, hawait.not_endsInWord, harrow⟩

/-- No head goes on after the call in a plain statement. -/
theorem no_head_after_awaited_statement :
    let code := "const r = await fetch(url);"
    AwaitsEveryFetch code.toList ∧
      ¬ ∃ before head after, code.toList = before ++ "fetch".toList ++ head ++ after ∧ EndsInAwait before ∧
        (IsMethodHead head ∨ IsArrowHead head) := by
  intro code
  have hawaits : AwaitsEveryFetch code.toList :=
    awaitsEveryFetch_of_single "const r = ".toList [' '] (by decide) (by decide) (by simp) (by decide +kernel)
  have hclean : requestOnlyHandler.detects code = false := by decide +kernel
  refine ⟨hawaits, ?_⟩
  rw [← detects_requestOnlyHandler_iff_of_awaited code hawaits, hclean]
  exact Bool.false_ne_true

/-- The other branch of a conditional expression is taken for a result type and the body of a handler. -/
theorem awaited_conditional_taken_for_handler :
    let code := "const r = ok ? await fetch(url) : \x7b status: 500 \x7d;"
    AwaitsEveryFetch code.toList ∧ requestOnlyHandler.detects code = true := by
  intro code
  exact ⟨awaitsEveryFetch_of_single "const r = ok ? ".toList [' '] (by decide) (by decide) (by simp)
    (by decide +kernel), by decide +kernel⟩

end Signal

/-! ### Two rules about the handler -/

namespace Analysis

/-- The head of a method begins like a call. -/
theorem fetchCall_of_method {code : List Char} (hmethod : singleParameterMethod.occursIn code = true) :
    fetchCall.occursIn code = true := by
  obtain ⟨before, head, after, rfl, hbefore, hhead⟩ := occursIn_method_iff.1 hmethod
  obtain @⟨gap, parameters, gap', result, hgap, @⟨inner, parameter, inner', -, -, -⟩, -, -⟩ := hhead
  exact occursIn_fetchCall_iff.2 ⟨before, gap,
    inner ++ parameter ++ inner' ++ [')'] ++ gap' ++ result ++ ['\x7b'] ++ after, by simp, hbefore, hgap⟩

/-- The default catalog reports both that there is no handler, and that the handler takes only the request, exactly if
the source has a property `fetch` with an arrow function of one parameter, and nothing named `fetch` before a
parenthesis. -/
theorem both_handler_rules_apply_iff (code : String) :
    (Catalog.missingFetchHandler.id ∈ (findings Catalog.default code).map (·.ruleId) ∧
        Catalog.missingContextParams.id ∈ (findings Catalog.default code).map (·.ruleId)) ↔
      (∃ before head after, code.toList = before ++ "fetch".toList ++ head ++ after ∧ ¬ EndsInWord before ∧
          IsArrowHead head) ∧
        ¬ ∃ before gap after, code.toList = before ++ "fetch".toList ++ gap ++ ['('] ++ after ∧
          ¬ EndsInWord before ∧ IsGap gap := by
  have hhandler : Catalog.missingFetchHandler ∈ Catalog.default := by simp [Catalog.default]
  have hparams : Catalog.missingContextParams ∈ Catalog.default := by simp [Catalog.default]
  rw [ruleId_mem_iff hhandler, ruleId_mem_iff hparams, ← occursIn_arrow_iff, ← occursIn_fetchCall_iff]
  change (!fetchCall.occursIn code.toList) = true ∧
    (singleParameterMethod.occursIn code.toList || singleParameterArrow.occursIn code.toList) = true ↔ _
  rw [Bool.not_eq_true', Bool.or_eq_true, Bool.not_eq_true]
  constructor
  · rintro ⟨hnone, hmethod | harrow⟩
    · rw [fetchCall_of_method hmethod] at hnone
      exact absurd hnone (by simp)
    · exact ⟨harrow, hnone⟩
  · rintro ⟨harrow, hnone⟩
    exact ⟨hnone, .inr harrow⟩

/-- A source with one arrow function has a handler by one rule and none by the other. -/
theorem both_handler_rules_apply_of_arrow :
    (findings Catalog.default "export default \x7b fetch: request => new Response('hi') \x7d").map (·.ruleId) =
      ["missing-fetch-handler", "missing-context-params"] := by
  decide +kernel

end Analysis

end WorkerAdvisor
