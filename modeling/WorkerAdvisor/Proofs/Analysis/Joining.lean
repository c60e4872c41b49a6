import WorkerAdvisor.Proofs.Analysis
import WorkerAdvisor.Proofs.Pattern.Surroundings

/-!
The findings in two sources that are joined by a line feed.

What a signal tells about a source has one of three aspects: something is there, something is not there, or something
is there and nothing that should go with it (`Signal.aspect`). Two joined sources have whatever one of them has, since
the patterns are steady, so the three aspects relate the joined source to its parts in three ways
(`Signal.relates_joined`). Of a word that holds no line feed nothing can begin in one part and end in the other.

`Analysis.findings_joined` says this of the rules of the default catalog, each of which has one of the aspects
(`Catalog.mem_default_iff`).
-/

set_option autoImplicit false

namespace WorkerAdvisor

open Pattern

/-! ### The patterns are steady -/

namespace Pattern

theorem isSteady_wordBoundary : wordBoundary.IsSteady := isSteadyCondition_atWordBoundary

theorem isSteady_wordFrom (content : String) : (wordFrom content).IsSteady :=
  ⟨isSteady_wordBoundary, by simp⟩

/-- A choice of whole words looks at its place only to see where words begin and end. -/
theorem isSteady_wholeWord (first : String) (others : List String) : (wholeWord first others).IsSteady := by
  simp [wholeWord, isSteady_wordBoundary]

/-- A match of words without line feeds stays in a line. -/
theorem isOneLine_wholeWord {first : String} {others : List String}
    (hwords : ∀ word ∈ first :: others, '\n' ∉ word.toList) : (wholeWord first others).IsOneLine := by
  have hword : ∀ word ∈ first :: others, (literal word).IsOneLine := by
    intro word hmem
    simp only [IsOneLine, allParts_literal, beq_iff_eq]
    rintro c hc d rfl rfl
    exact hwords word hmem hc
  simpa [wholeWord, wordBoundary, AllParts] using hword

end Pattern

namespace Source

/-- A reference to a module looks at nothing around it. -/
theorem isSteady_moduleReference (module : String) : (moduleReference module).IsSteady := by
  simp [moduleReference, specifier, isSteady_wordFrom, blanks, AllParts]

/-- A declaration looks at the start of its line only. -/
theorem isSteady_topLevelDeclaration : topLevelDeclaration.IsSteady := by
  simp [topLevelDeclaration, lineStart, isSteadyCondition_atLineStart, blanks1, many1, AllParts]

theorem isSteady_fetchCall : fetchCall.IsSteady := by
  simp [fetchCall, isSteady_wordFrom, blanks, AllParts]

theorem isSteady_singleParameter : singleParameter.IsSteady := by
  simp [singleParameter, parameter, identifier, blanks, many1, AllParts]

theorem isSteady_singleParameterMethod : singleParameterMethod.IsSteady := by
  simp [singleParameterMethod, isSteady_singleParameter, isSteady_wordFrom, blanks, blanks1, many1, AllParts]

theorem isSteady_singleParameterArrow : singleParameterArrow.IsSteady := by
  simp [singleParameterArrow, isSteady_singleParameter, isSteady_wordFrom, identifier, blanks, many1, AllParts]

theorem isSteady_response : response.IsSteady := by
  simp [response, isSteady_wordFrom, blanks, blanks1, many1, AllParts]

end Source

/-! ### Signals -/

/-- What a signal tells: that something is there, that something is not there, or that something is there without
what should go with it. -/
inductive Aspect
  | presence
  | absence
  | mixed
  deriving DecidableEq, Repr

/-- How the joined source is related to its parts in an aspect. What is there is there still; what is missing was
missing in both parts; and what stands alone stood alone in one of them. -/
def Aspect.Relates (first second joined : Prop) : Aspect → Prop
  | presence => first ∨ second → joined
  | absence => joined → first ∧ second
  | mixed => joined → first ∨ second

namespace Signal

open Source

/-- The aspect of a signal. -/
def aspect : Signal → Aspect
  | moduleReference _ | blockingCall | timer | defaultExport | sharedState | requestOnlyHandler => .presence
  | noDefaultExport | noFetchHandler => .absence
  | unhandledFailure | noResponse | noDeferredWork => .mixed

variable {first second : List Char}

/-- A word that no line feed splits is in the joined source if it is in a part. -/
theorem wholeWord_joined_iff {word : String} {others : List String}
    (hwords : ∀ content ∈ word :: others, '\n' ∉ content.toList := by decide) :
    (wholeWord word others).occursIn (first ++ '\n' :: second) = true ↔
      (wholeWord word others).occursIn first = true ∨ (wholeWord word others).occursIn second = true :=
  Pattern.occursIn_joined_iff (isSteady_wholeWord word others) (isOneLine_wholeWord hwords)

/-- A blocking call is in a joined source exactly if it is in a part. -/
theorem blockingCall_joined_iff :
    blockingCall.holds (first ++ '\n' :: second) = true ↔
      blockingCall.holds first = true ∨ blockingCall.holds second = true :=
  wholeWord_joined_iff

/-- A timer is in a joined source exactly if it is in a part. -/
theorem timer_joined_iff :
    timer.holds (first ++ '\n' :: second) = true ↔ timer.holds first = true ∨ timer.holds second = true :=
  wholeWord_joined_iff

/-- A default export is in a joined source exactly if it is in a part. -/
theorem defaultExport_joined_iff :
    defaultExport.holds (first ++ '\n' :: second) = true ↔
      defaultExport.holds first = true ∨ defaultExport.holds second = true :=
  Text.occursIn_joined_iff (by decide)

/-- A joined source is without a default export exactly if both parts are. -/
theorem noDefaultExport_joined_iff :
    noDefaultExport.holds (first ++ '\n' :: second) = true ↔
      noDefaultExport.holds first = true ∧ noDefaultExport.holds second = true := by
  have hexport := @defaultExport_joined_iff first second
  simp only [holds, Bool.not_eq_true', Bool.eq_false_iff, ne_eq] at hexport ⊢
  rw [hexport, not_or]

/-- A word without any of the things that should go with it stood so in one of the parts. -/
theorem mixed_joined {word : String} {goesWith : List Char → Bool}
    (hgoes : goesWith first = true ∨ goesWith second = true → goesWith (first ++ '\n' :: second) = true)
    (hjoined : ((wholeWord word []).occursIn (first ++ '\n' :: second) && !goesWith (first ++ '\n' :: second)) = true)
    (hword : ∀ content ∈ [word], '\n' ∉ content.toList := by decide) :
    ((wholeWord word []).occursIn first && !goesWith first) = true ∨
      ((wholeWord word []).occursIn second && !goesWith second) = true := by
  simp only [Bool.and_eq_true, Bool.not_eq_true', Bool.eq_false_iff, ne_eq] at hjoined ⊢
  obtain ⟨hthere, halone⟩ := hjoined
  have hneither := not_or.1 (mt hgoes halone)
  rcases (wholeWord_joined_iff hword).1 hthere with hfirst | hsecond
  · exact .inl ⟨hfirst, hneither.1⟩
  · exact .inr ⟨hsecond, hneither.2⟩

/-- Whether a source has a place where failures are handled. -/
def handlesFailure (code : List Char) : Bool :=
  (wholeWord "try" []).occursIn code || (wholeWord "catch" []).occursIn code

theorem unhandledFailure_holds (code : List Char) :
    unhandledFailure.holds code = ((wholeWord "async" []).occursIn code && !handlesFailure code) := by
  simp [holds, handlesFailure, Bool.and_assoc]

/-- A joined source handles failure if a part does. -/
theorem handlesFailure_joined (hpart : handlesFailure first = true ∨ handlesFailure second = true) :
    handlesFailure (first ++ '\n' :: second) = true := by
  simp only [handlesFailure, Bool.or_eq_true] at hpart ⊢
  rw [wholeWord_joined_iff, wholeWord_joined_iff]
  exact or_or_or_comm.1 hpart

/-- The joined source is related to its parts as the aspect of the signal says. -/
theorem relates_joined (signal : Signal) (first second : List Char) :
    signal.aspect.Relates (signal.holds first = true) (signal.holds second = true)
      (signal.holds (first ++ '\n' :: second) = true) := by
  cases signal with
  | moduleReference module => exact Pattern.occursIn_joined (isSteady_moduleReference module)
  | blockingCall => exact blockingCall_joined_iff.2
  | timer => exact timer_joined_iff.2
  | defaultExport => exact defaultExport_joined_iff.2
  | sharedState =>
    intro hpart
    simp only [holds, Bool.and_eq_true] at hpart ⊢
    rcases hpart with ⟨hstate, hexport⟩ | ⟨hstate, hexport⟩
    · exact ⟨Pattern.occursIn_joined isSteady_topLevelDeclaration (.inl hstate),
        defaultExport_joined_iff.2 (.inl hexport)⟩
    · exact ⟨Pattern.occursIn_joined isSteady_topLevelDeclaration (.inr hstate),
        defaultExport_joined_iff.2 (.inr hexport)⟩
  | requestOnlyHandler =>
    intro hpart
    simp only [holds, Bool.or_eq_true] at hpart ⊢
    rcases hpart with (hmethod | harrow) | (hmethod | harrow)
    · exact .inl (Pattern.occursIn_joined isSteady_singleParameterMethod (.inl hmethod))
    · exact .inr (Pattern.occursIn_joined isSteady_singleParameterArrow (.inl harrow))
    · exact .inl (Pattern.occursIn_joined isSteady_singleParameterMethod (.inr hmethod))
    · exact .inr (Pattern.occursIn_joined isSteady_singleParameterArrow (.inr harrow))
  | noDefaultExport => exact noDefaultExport_joined_iff.1
  | noFetchHandler =>
    intro hjoined
    simp only [holds, Bool.not_eq_true', Bool.eq_false_iff, ne_eq] at hjoined ⊢
    exact not_or.1 (mt (Pattern.occursIn_joined isSteady_fetchCall) hjoined)
  | unhandledFailure =>
    rw [unhandledFailure_holds, unhandledFailure_holds, unhandledFailure_holds]
    exact fun hjoined ↦ mixed_joined handlesFailure_joined hjoined
  | noResponse => exact fun hjoined ↦ mixed_joined (Pattern.occursIn_joined isSteady_response) hjoined
  | noDeferredWork => exact fun hjoined ↦ mixed_joined (Text.occursIn_joined_iff (by decide)).2 hjoined

end Signal

/-! ### Rules -/

namespace Catalog

/-- The rules of the default catalog whose signals have an aspect. -/
def rulesOf : Aspect → List Rule
  | .presence => unavailableModules.map moduleRule ++ [blockingCall, timerUsage, moduleLevelState, missingContextParams]
  | .absence => [missingDefaultExport, missingFetchHandler]
  | .mixed => [missingErrorHandling, missingResponseObject, missingWaitUntil]

/-- Each rule of the default catalog has an aspect. -/
theorem mem_default_iff {rule : Rule} :
    rule ∈ default ↔ rule ∈ rulesOf .presence ∨ rule ∈ rulesOf .absence ∨ rule ∈ rulesOf .mixed := by
  simp only [rulesOf, default, List.mem_append, List.mem_cons, List.not_mem_nil, or_false]
  tauto

theorem mem_default_of_mem_rulesOf {aspect : Aspect} {rule : Rule} (hrule : rule ∈ rulesOf aspect) :
    rule ∈ default := by
  cases aspect with
  | presence => exact mem_default_iff.2 (.inl hrule)
  | absence => exact mem_default_iff.2 (.inr (.inl hrule))
  | mixed => exact mem_default_iff.2 (.inr (.inr hrule))

/-- A rule with an aspect looks for a signal with that aspect. -/
theorem exists_signal {aspect : Aspect} {rule : Rule} (hrule : rule ∈ rulesOf aspect) :
    ∃ signal : Signal, signal.aspect = aspect ∧ rule.trigger = signal.detects := by
  cases aspect with
  | presence =>
    rcases List.mem_append.1 hrule with hmodule | hother
    · obtain ⟨module, -, rfl⟩ := List.mem_map.1 hmodule
      exact ⟨.moduleReference module, rfl, rfl⟩
    · simp only [List.mem_cons, List.not_mem_nil, or_false] at hother
      rcases hother with rfl | rfl | rfl | rfl
      · exact ⟨.blockingCall, rfl, rfl⟩
      · exact ⟨.timer, rfl, rfl⟩
      · exact ⟨.sharedState, rfl, rfl⟩
      · exact ⟨.requestOnlyHandler, rfl, rfl⟩
  | absence =>
    simp only [rulesOf, List.mem_cons, List.not_mem_nil, or_false] at hrule
    rcases hrule with rfl | rfl
    · exact ⟨.noDefaultExport, rfl, rfl⟩
    · exact ⟨.noFetchHandler, rfl, rfl⟩
  | mixed =>
    simp only [rulesOf, List.mem_cons, List.not_mem_nil, or_false] at hrule
    rcases hrule with rfl | rfl | rfl
    · exact ⟨.unhandledFailure, rfl, rfl⟩
    · exact ⟨.noResponse, rfl, rfl⟩
    · exact ⟨.noDeferredWork, rfl, rfl⟩

end Catalog

namespace Analysis

theorem detects_joined (signal : Signal) (first second : String) :
    signal.detects (first ++ "\n" ++ second) = signal.holds (first.toList ++ '\n' :: second.toList) := by
  rw [Signal.detects, String.toList_append, String.toList_append, List.append_assoc]
  rfl

def ids (code : String) : List String := (findings Catalog.default code).map (·.ruleId)

/-- An id of the catalog is found exactly if its rule is triggered. -/
theorem id_mem_ids_iff {rule : Rule} (hrule : rule ∈ Catalog.default) {code : String} :
    rule.id ∈ ids code ↔ rule.trigger code = true :=
  ruleId_mem_iff hrule

/-- A rule with an aspect relates the joined source to its parts as that aspect says. -/
theorem relates_ids_joined {aspect : Aspect} {rule : Rule} (hrule : rule ∈ Catalog.rulesOf aspect)
    (first second : String) :
    aspect.Relates (rule.id ∈ ids first) (rule.id ∈ ids second) (rule.id ∈ ids (first ++ "\n" ++ second)) := by
  obtain ⟨signal, rfl, htrigger⟩ := Catalog.exists_signal hrule
  simp only [id_mem_ids_iff (Catalog.mem_default_of_mem_rulesOf hrule), htrigger, detects_joined]
  exact signal.relates_joined first.toList second.toList

/-- The findings in two sources joined by a line feed. Each rule of the default catalog is of one of three kinds. A rule
against something that is there applies to the joined source if it applies to a part, and the rules against blocking
calls and timers only then. A rule against something that is missing applies only if it applies to both parts, and the
rule about the default export always then. A rule against something that stands without what should go with it applies
only if it applies to a part. -/
theorem findings_joined (first second : String) :
    (∀ rule, rule ∈ Catalog.default ↔
      rule ∈ Catalog.rulesOf .presence ∨ rule ∈ Catalog.rulesOf .absence ∨ rule ∈ Catalog.rulesOf .mixed) ∧
      (∀ rule ∈ Catalog.rulesOf .presence,
        rule.id ∈ ids first ∨ rule.id ∈ ids second → rule.id ∈ ids (first ++ "\n" ++ second)) ∧
      (∀ rule ∈ [Catalog.blockingCall, Catalog.timerUsage],
        rule.id ∈ ids (first ++ "\n" ++ second) → rule.id ∈ ids first ∨ rule.id ∈ ids second) ∧
      (∀ rule ∈ Catalog.rulesOf .absence,
        rule.id ∈ ids (first ++ "\n" ++ second) → rule.id ∈ ids first ∧ rule.id ∈ ids second) ∧
      (Catalog.missingDefaultExport.id ∈ ids first ∧ Catalog.missingDefaultExport.id ∈ ids second →
        Catalog.missingDefaultExport.id ∈ ids (first ++ "\n" ++ second)) ∧
      (∀ rule ∈ Catalog.rulesOf .mixed,
        rule.id ∈ ids (first ++ "\n" ++ second) → rule.id ∈ ids first ∨ rule.id ∈ ids second) := by
  refine ⟨fun rule ↦ Catalog.mem_default_iff, fun rule hrule ↦ relates_ids_joined hrule first second, ?_,
    fun rule hrule ↦ relates_ids_joined hrule first second, ?_,
    fun rule hrule ↦ relates_ids_joined hrule first second⟩
  · have hblocking : ∀ code, Catalog.blockingCall.id ∈ ids code ↔ Signal.blockingCall.detects code = true :=
      fun code ↦ id_mem_ids_iff (by simp [Catalog.default])
    have htimer : ∀ code, Catalog.timerUsage.id ∈ ids code ↔ Signal.timer.detects code = true :=
      fun code ↦ id_mem_ids_iff (by simp [Catalog.default])
    simp only [List.forall_mem_cons, List.not_mem_nil, false_implies, implies_true, and_true, hblocking, htimer,
      detects_joined]
    exact ⟨Signal.blockingCall_joined_iff.1, Signal.timer_joined_iff.1⟩
  · have hexport : ∀ code, Catalog.missingDefaultExport.id ∈ ids code ↔ Signal.noDefaultExport.detects code = true :=
      fun code ↦ id_mem_ids_iff (by simp [Catalog.default])
    rw [hexport, hexport, hexport, detects_joined]
    exact Signal.noDefaultExport_joined_iff.2

/-- A timer before a module whose handler is an arrow function. -/
theorem findings_joined_timer_handler :
    let first := "const timer = setTimeout(tick, 5)"
    let second := "export default \x7b fetch: async request => await run(request) \x7d"
    let joined := first ++ "\n" ++ second
    (Catalog.timerUsage.id ∈ ids first ∧ Catalog.timerUsage.id ∈ ids joined) ∧
      (Catalog.missingFetchHandler.id ∈ ids joined ∧
        Catalog.missingFetchHandler.id ∈ ids first ∧ Catalog.missingFetchHandler.id ∈ ids second) ∧
      (Catalog.missingWaitUntil.id ∈ ids joined ∧
        (Catalog.missingWaitUntil.id ∈ ids first ∨ Catalog.missingWaitUntil.id ∈ ids second)) := by
  intro first second joined
  obtain ⟨-, hpresence, -, habsence, -, hmixed⟩ := findings_joined first second
  have htimer : Catalog.timerUsage.id ∈ ids first := by decide +kernel
  have hhandler : Catalog.missingFetchHandler.id ∈ ids joined := by decide +kernel
  have hwork : Catalog.missingWaitUntil.id ∈ ids joined := by decide +kernel
  exact ⟨⟨htimer, hpresence _ (by simp [Catalog.rulesOf]) (.inl htimer)⟩,
    ⟨hhandler, habsence _ (by simp [Catalog.rulesOf]) hhandler⟩,
    hwork, hmixed _ (by simp [Catalog.rulesOf]) hwork⟩

end Analysis

end WorkerAdvisor
