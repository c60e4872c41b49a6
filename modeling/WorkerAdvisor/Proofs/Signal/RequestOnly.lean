import WorkerAdvisor.Proofs.Pattern.Surroundings
import WorkerAdvisor.Proofs.Signal.Handler

/-!
Fetch handlers that take only the request.

A source holds such a handler, as far as the search can tell, exactly if somewhere in it the word `fetch` begins and the
head of a method or of a property with an arrow function goes on behind it
(`Signal.detects_requestOnlyHandler_iff_head`). No place counts but that one: text around a source hides nothing that is
found in it (`Signal.requestOnlyHandler_holds_within`). A method with a comma before the first closing parenthesis is
none of them, since there is no comma in a single parameter (`Source.not_isMethodHead_of_comma`).
-/

set_option autoImplicit false

namespace WorkerAdvisor

namespace Source

open Pattern

/-! ### Parameters without commas -/

theorem comma_not_mem_gap {gap : List Char} (hgap : IsGap gap) : ',' ∉ gap := by
  intro hcomma
  exact absurd (hgap ',' hcomma) (by decide)

theorem comma_not_mem_identifier {name : List Char} (hname : IsIdentifier name) : ',' ∉ name := by
  obtain ⟨hfirst, hothers⟩ := hname
  intro hcomma
  rcases List.mem_cons.1 hcomma with rfl | hcomma
  · exact absurd hfirst (by decide)
  · exact absurd (hothers ',' hcomma) (by decide)

/-- There is no comma in a parameter, so that a comma always ends it. -/
theorem comma_not_mem_parameter {parameter : List Char} (hparameter : IsParameter parameter) : ',' ∉ parameter := by
  cases hparameter with
  | untyped hname => exact comma_not_mem_identifier hname
  | typed hname hgap hgap' _ hall =>
    simp only [List.mem_append, List.mem_singleton, not_or]
    refine ⟨⟨⟨⟨comma_not_mem_identifier hname, comma_not_mem_gap hgap⟩, by decide⟩, comma_not_mem_gap hgap'⟩, ?_⟩
    intro hcomma
    exact absurd (hall ',' hcomma) (by decide)

/-- White space ends before a character that is not white space. -/
theorem gap_append_inj {gap gap' first second : List Char} {c : Char} (hgap : IsGap gap) (hgap' : IsGap gap')
    (hc : Text.isBlank c = false) (hsame : gap ++ c :: first = gap' ++ c :: second) : first = second := by
  have hcgap : c ∉ gap := fun hmem ↦ absurd (hgap c hmem) (by simp [hc])
  have hcgap' : c ∉ gap' := fun hmem ↦ absurd (hgap' c hmem) (by simp [hc])
  obtain ⟨rest, rfl, hrest⟩ := exists_rest_of_append_eq hsame hcgap
  cases rest with
  | nil => exact (List.cons.inj hrest).2
  | cons d rest =>
    obtain ⟨rfl, -⟩ := List.cons.inj hrest
    exact absurd (by simp) hcgap'

/-- The parameters of a head of a method hold no comma before the first closing parenthesis. -/
theorem not_isMethodHead_of_comma {gap list rest head after : List Char} (hgap : IsGap gap) (hlist : ')' ∉ list)
    (hsplit : head ++ after = gap ++ ['('] ++ list ++ [','] ++ rest) : ¬ IsMethodHead head := by
  rintro @⟨gap', parameters, gap'', result, hgap', @⟨inner, parameter, inner', hinner, hparameter, hinner'⟩, -, -⟩
  let content := inner ++ parameter ++ inner'
  let behind := gap'' ++ result ++ ['\x7b'] ++ after
  have hcomma : ',' ∉ content := by
    simp only [content, List.mem_append, not_or]
    exact ⟨⟨comma_not_mem_gap hinner, comma_not_mem_parameter hparameter⟩, comma_not_mem_gap hinner'⟩
  have hsame : gap' ++ '(' :: (content ++ ')' :: behind) = gap ++ '(' :: (list ++ ',' :: rest) := by
    simpa [content, behind] using hsplit
  -- The list goes on behind the single parameter, and so with the closing parenthesis.
  obtain ⟨more, hmore, hbehind⟩ := exists_rest_of_append_eq (gap_append_inj hgap' hgap (by decide) hsame) hcomma
  cases more with
  | nil => exact absurd (List.cons.inj hbehind).1 (by decide)
  | cons d more =>
    obtain ⟨rfl, -⟩ := List.cons.inj hbehind
    exact hlist (by simp [hmore])

end Source

namespace Signal

open Pattern Source

/-! ### Handlers in a longer source -/

/-- A head in a part of a source is one in the source, if no word goes on into the part. -/
theorem occursIn_head_within {IsHead : List Char → Prop} {front code back : List Char} (hfront : ¬ EndsInWord front)
    (hhead : ∃ before head after, code = before ++ "fetch".toList ++ head ++ after ∧ ¬ EndsInWord before ∧ IsHead head) :
    ∃ before head after, front ++ code ++ back = before ++ "fetch".toList ++ head ++ after ∧ ¬ EndsInWord before ∧
      IsHead head := by
  obtain ⟨before, head, after, rfl, hbefore, hhead⟩ := hhead
  refine ⟨front ++ before, head, after ++ back, by simp, ?_, hhead⟩
  by_cases hnone : before = []
  · rwa [hnone, List.append_nil]
  · rwa [endsInWord_append front hnone]

/-- Whatever stands before a handler and behind it, even other uses of `fetch`, the handler is found, unless it becomes
part of a longer word. -/
theorem requestOnlyHandler_holds_within {front code back : List Char} (hfront : ¬ EndsInWord front)
    (hholds : requestOnlyHandler.holds code = true) : requestOnlyHandler.holds (front ++ code ++ back) = true := by
  rw [holds, Bool.or_eq_true, occursIn_method_iff, occursIn_arrow_iff] at hholds ⊢
  exact hholds.imp (occursIn_head_within hfront) (occursIn_head_within hfront)

/-- A source is taken to hold a fetch handler that takes only the request exactly if a word `fetch`, with no word
character before it, goes on as the head of a method or of a property with an arrow function. The word `async` before a
method makes no difference. No method has a comma before the first closing parenthesis behind its name. What is found in
a source is found in a longer one, whatever else of that one goes on like a handler and is none. -/
theorem detects_requestOnlyHandler_iff_head (code : String) :
    (requestOnlyHandler.detects code = true ↔
      ∃ before head after, code.toList = before ++ "fetch".toList ++ head ++ after ∧ ¬ EndsInWord before ∧
        (IsMethodHead head ∨ IsArrowHead head)) ∧
      requestOnlyHandler.detects code =
        ((followedBy (wordFrom "fetch") methodHead).occursIn code.toList ||
          singleParameterArrow.occursIn code.toList) ∧
      (∀ gap list rest head after : List Char, IsGap gap → ')' ∉ list →
        head ++ after = gap ++ ['('] ++ list ++ [','] ++ rest → ¬ IsMethodHead head) ∧
      ∀ front back : String, ¬ EndsInWord front.toList → requestOnlyHandler.detects code = true →
        requestOnlyHandler.detects (front ++ code ++ back) = true := by
  refine ⟨?_, ?_, fun gap list rest head after hgap hlist hsplit ↦ not_isMethodHead_of_comma hgap hlist hsplit,
    fun front back hfront hdetects ↦ ?_⟩
  · rw [detects, holds, Bool.or_eq_true, occursIn_method_iff, occursIn_arrow_iff]
    simp only [and_or_left, exists_or]
  · rw [detects, holds]
    exact congrArg (· || _) (occursIn_optional_followedBy _ _ code.toList)
  · rw [detects, String.toList_append, String.toList_append]
    exact requestOnlyHandler_holds_within hfront hdetects

/-- Two calls and a method with three parameters before a method with one. -/
theorem later_handler_found :
    let front := "await fetch(a, b); fetch(request, env, ctx) \x7b \x7d async "
    let code := "fetch(request: Request): Promise<Response> \x7b"
    ¬ EndsInWord front.toList ∧ requestOnlyHandler.detects front = false ∧ requestOnlyHandler.detects code = true ∧
      requestOnlyHandler.detects (front ++ code ++ " return a \x7d") = true := by
  intro front code
  have hfront : ¬ EndsInWord front.toList := by decide
  have hdetects : requestOnlyHandler.detects code = true := by decide
  obtain ⟨-, -, -, hlonger⟩ := detects_requestOnlyHandler_iff_head code
  exact ⟨hfront, by decide, hdetects, hlonger front _ hfront hdetects⟩

end Signal

end WorkerAdvisor
