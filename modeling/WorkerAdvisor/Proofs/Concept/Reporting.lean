import WorkerAdvisor.Assistant.Session
import WorkerAdvisor.Proofs.Concept.Question

/-!
Which failures of a knowledge base are reported.

A knowledge base that cannot be loaded should be reported as such. That is so exactly if the file is not there, or
is UTF-8 and what is wrong with its text, if anything, is its form (`FailsInForm`, `load_reported_iff`). A file that
is not UTF-8, or in which a scalar or an escape has the right form and denotes nothing, makes every question fail in
another way, and the tools with it (`reported_iff_failsInForm`).
-/

set_option autoImplicit false

namespace WorkerAdvisor.Concept

/-- Whether an answer, if it is a failure, is a report on the knowledge base. -/
def IsReported {α : Type} (answer : Except QuestionError α) : Prop :=
  ∀ error, answer = .error error → ∃ reason, error = .load (.unusable reason)

/-- Whether reading a file can fail in no other way than by its absence or by the form of its text. -/
def FailsInForm (file : File) : Prop :=
  ∀ bytes, file = some bytes → ∃ text, String.fromUTF8? bytes = some text ∧
    ∀ fault, Yaml.load text.toList = .error fault → fault = .malformed

/-- What is done with an answer does not matter for whether a failure is reported. -/
theorem isReported_map {α β : Type} (answer : Except QuestionError α) (f : α → β) :
    IsReported (answer.map f) ↔ IsReported answer := by
  cases answer <;> simp [IsReported, Except.map]

/-! ### Loading -/

/-- An item that is no entry is reported. -/
theorem unusable_of_entriesOf {resolve : Value → Value} {items : List Value} {error : LoadError}
    (herror : KnowledgeBase.entriesOf resolve items = .error error) : ∃ reason, error = .unusable reason := by
  induction items generalizing error with
  | nil => cases herror
  | cons item items ih =>
    unfold KnowledgeBase.entriesOf at herror
    split at herror
    · cases herror
      exact ⟨_, rfl⟩
    · cases hrest : KnowledgeBase.entriesOf resolve items with
      | error reason =>
        rw [hrest] at herror
        cases herror
        exact ih hrest
      | ok entries =>
        rw [hrest] at herror
        cases herror

/-- A document without entries is reported. -/
theorem unusable_of_ofDocument {document : Yaml.Document} {error : LoadError}
    (herror : KnowledgeBase.ofDocument document = .error error) : ∃ reason, error = .unusable reason := by
  unfold KnowledgeBase.ofDocument at herror
  split at herror
  · split at herror
    · exact unusable_of_entriesOf herror
    · cases herror
      exact ⟨_, rfl⟩
  · cases herror
    exact ⟨_, rfl⟩

/-- Every failure to load a text is reported exactly if the text can fail in its form only. -/
theorem ofText_reported_iff (text : String) :
    (∀ error, KnowledgeBase.ofText text = .error error → ∃ reason, error = .unusable reason) ↔
      ∀ fault, Yaml.load text.toList = .error fault → fault = .malformed := by
  cases hload : Yaml.load text.toList with
  | ok document =>
    simp only [KnowledgeBase.ofText, hload, reduceCtorEq, false_implies, implies_true, iff_true]
    exact fun error ↦ unusable_of_ofDocument
  | error fault =>
    cases fault <;> simp [KnowledgeBase.ofText, hload]

/-- A failure to load is reported exactly if the file can fail in no other way than by its absence or its form. -/
theorem load_reported_iff (file : File) :
    (∀ error, KnowledgeBase.load file = .error error → ∃ reason, error = .unusable reason) ↔ FailsInForm file := by
  cases file with
  | none => simp [KnowledgeBase.load, FailsInForm]
  | some bytes =>
    cases htext : String.fromUTF8? bytes with
    | none => simp [KnowledgeBase.load, FailsInForm, htext]
    | some text =>
      simp only [KnowledgeBase.load, htext, ofText_reported_iff]
      simp [FailsInForm, htext]

/-! ### Questions -/

@[simp] theorem mapError_ok {ε ε' α : Type} (f : ε → ε') (a : α) : (Except.ok a).mapError f = .ok a := rfl

@[simp] theorem mapError_error {ε ε' α : Type} (f : ε → ε') (e : ε) :
    (Except.error e : Except ε α).mapError f = .error (f e) := rfl

/-- A fresh desk answers what its file can be loaded as. -/
theorem knowledgeBase_fresh (directory : String) (file : File) :
    (Desk.fresh.knowledgeBase directory file).answer = (KnowledgeBase.load file).mapError .load := by
  unfold Desk.knowledgeBase Desk.ask Desk.fresh
  cases KnowledgeBase.load file <;> rfl

/-- A failure to give out the entries is always reported exactly if the file can fail in its form only. -/
theorem knowledgeBase_reported_iff (directory : String) (file : File) :
    IsReported (Desk.fresh.knowledgeBase directory file).answer ↔ FailsInForm file := by
  rw [← load_reported_iff, knowledgeBase_fresh]
  cases KnowledgeBase.load file <;> simp [IsReported]

theorem list_reported_iff (directory : String) (file : File) :
    IsReported (Desk.fresh.list directory file).answer ↔ FailsInForm file := by
  rw [Desk.list, ask_eq, isReported_map, knowledgeBase_reported_iff]

/-- A failure to explain a concept is always reported exactly if the file can fail in its form only. -/
theorem explain_reported_iff (directory : String) (file : File) {content : String}
    (hwords : content.toList.all Text.isBlank = false) :
    IsReported (Desk.fresh.explain directory file (.text content)).answer ↔ FailsInForm file := by
  simp only [Desk.explain, concept_text hwords, ask_eq, isReported_map, knowledgeBase_reported_iff]

/-! ### Tools -/

open Assistant

/-- A tool that asked the desk fails exactly if the answer is a failure that is not reported. -/
theorem afterQuestion_eq_toolFailure_iff {α : Type} (session : Session) (outcome : Outcome α)
    (answer : α → ToolAnswer) :
    (session.afterQuestion outcome answer).1 = .toolFailure ↔
      ∃ error, outcome.answer = .error error ∧ ReportedError.ofError? error = none := by
  unfold Session.afterQuestion
  cases outcome.answer with
  | ok found => simp
  | error error => cases hreport : ReportedError.ofError? error <;> simp [hreport]

/-- A failure to load is kept from a caller exactly if it is none of the four reasons. -/
theorem ofError?_load_eq_none_iff {error : LoadError} :
    ReportedError.ofError? (.load error) = none ↔ ∀ reason, error ≠ .unusable reason := by
  cases error <;> simp [ReportedError.ofError?]

/-- A tool that asks a fresh desk a question fails exactly if the answer is not reported. -/
theorem ask_ne_toolFailure_iff {α : Type} (session : Session) (directory : String) (file : File)
    {outcome : Outcome α} {f : List Entry → α} (answer : α → ToolAnswer)
    (houtcome : outcome.answer = (Desk.fresh.knowledgeBase directory file).answer.map f) :
    (session.afterQuestion outcome answer).1 ≠ .toolFailure ↔ FailsInForm file := by
  rw [Ne, afterQuestion_eq_toolFailure_iff, houtcome, knowledgeBase_fresh, ← load_reported_iff]
  cases KnowledgeBase.load file with
  | ok entries => simp [Except.map]
  | error error => simp [Except.map, ofError?_load_eq_none_iff]

theorem step_listConcepts (session : Session) (file : File) :
    session.step file (.callTool Tool.listConcepts.name []) =
      session.afterQuestion (session.desk.list session.directory file) .headings := rfl

/-- A call of the tool for explanations asks the desk. -/
theorem step_explain (session : Session) (file : File) (asked : String) :
    session.step file (.callTool Tool.explain.name [("concept", .text asked)]) =
      session.afterQuestion (session.desk.explain session.directory file (.text asked)) .explanation := rfl

/-- A call that lists the concepts is answered exactly if the file can fail in its form only. -/
theorem list_ne_toolFailure_iff (catalog : List Rule) (directory : String) (file : File) :
    ((Session.fresh catalog directory).step file (.callTool Tool.listConcepts.name [])).1 ≠ .toolFailure ↔
      FailsInForm file := by
  rw [step_listConcepts]
  exact ask_ne_toolFailure_iff _ directory file _ (congrArg Outcome.answer (ask_eq ..))

/-- A call that explains a concept is answered exactly if the file can fail in its form only. -/
theorem explain_ne_toolFailure_iff (catalog : List Rule) (directory : String) (file : File) {asked : String}
    (hwords : asked.toList.all Text.isBlank = false) :
    ((Session.fresh catalog directory).step file
      (.callTool Tool.explain.name [("concept", .text asked)])).1 ≠ .toolFailure ↔ FailsInForm file := by
  rw [step_explain]
  refine ask_ne_toolFailure_iff (f := Desk.explanation asked) _ directory file _ ?_
  simp only [Desk.explain, concept_text hwords, ask_eq]
  rfl

/-- A blank concept is reported before the knowledge base is looked at. -/
theorem explain_blank_ne_toolFailure (session : Session) (file : File) {asked : String}
    (hblank : asked.toList.all Text.isBlank = true) :
    (session.step file (.callTool Tool.explain.name [("concept", .text asked)])).1 ≠ .toolFailure := by
  have hasked : (Event.explain (.text asked)).needsEntries = false := by simp [Event.needsEntries, hblank]
  have hrefusal : refusal (.text asked) = .emptyConcept (Text.quoted asked) := by
    simp [refusal, Argument.emptyForm?, hblank]
  rw [step_explain, Ne, afterQuestion_eq_toolFailure_iff]
  simp [Desk.explain, concept_refused hasked, hrefusal, ReportedError.ofError?]

/-! ### Which files are reported -/

/-- A file is reported by every question, and by every tool that asks one, exactly if it can fail in no other way
than by its absence or by the form of its text. A blank concept is reported whatever the file is.
Assumes: the concept asked for is not blank. -/
theorem reported_iff_failsInForm (catalog : List Rule) (directory : String) (file : File) (asked : String)
    (hwords : asked.toList.all Text.isBlank = false) :
    (IsReported (Desk.fresh.list directory file).answer ↔ FailsInForm file) ∧
      (IsReported (Desk.fresh.knowledgeBase directory file).answer ↔ FailsInForm file) ∧
      (IsReported (Desk.fresh.explain directory file (.text asked)).answer ↔ FailsInForm file) ∧
      (((Session.fresh catalog directory).step file (.callTool Tool.listConcepts.name [])).1 ≠ .toolFailure ↔
        FailsInForm file) ∧
      (((Session.fresh catalog directory).step file
        (.callTool Tool.explain.name [("concept", .text asked)])).1 ≠ .toolFailure ↔ FailsInForm file) ∧
      ∀ blank : String, blank.toList.all Text.isBlank = true →
        ((Session.fresh catalog directory).step file
          (.callTool Tool.explain.name [("concept", .text blank)])).1 ≠ .toolFailure :=
  ⟨list_reported_iff directory file, knowledgeBase_reported_iff directory file,
    explain_reported_iff directory file hwords, list_ne_toolFailure_iff catalog directory file,
    explain_ne_toolFailure_iff catalog directory file hwords, fun _ ↦ explain_blank_ne_toolFailure _ file⟩

/-- A file that is not there is reported by every question. -/
theorem reported_of_missing :
    IsReported (Desk.fresh.list "config" none).answer ∧
      IsReported (Desk.fresh.explain "config" none (.text "kv")).answer := by
  have hmissing : FailsInForm none := by
    intro bytes hbytes
    cases hbytes
  obtain ⟨hlist, -, hexplain, -⟩ := reported_iff_failsInForm [] "config" none "kv" (by decide)
  exact ⟨hlist.mpr hmissing, hexplain.mpr hmissing⟩

/-- A file of one byte that begins no character is not reported, and the tool that lists the concepts fails. -/
theorem not_reported_of_undecodable :
    let file : File := some ⟨#[0xff]⟩
    (Desk.fresh.list "config" file).answer = .error (.load .undecodable) ∧
      ¬ IsReported (Desk.fresh.list "config" file).answer ∧
      ((Session.fresh [] "config").step file (.callTool Tool.listConcepts.name [])).1 = .toolFailure := by
  intro file
  have htext : String.fromUTF8? ⟨#[0xff]⟩ = none := dif_neg (by decide +kernel)
  have hload : KnowledgeBase.load file = .error .undecodable := by simp only [file, KnowledgeBase.load, htext]
  have hlist : (Desk.fresh.list "config" file).answer = .error (.load .undecodable) := by
    rw [Desk.list, ask_eq, knowledgeBase_fresh, hload]
    rfl
  refine ⟨hlist, fun hreported ↦ ?_, ?_⟩
  · obtain ⟨reason, hreason⟩ := hreported _ hlist
    cases hreason
  · rw [step_listConcepts, afterQuestion_eq_toolFailure_iff]
    exact ⟨_, hlist, rfl⟩

end WorkerAdvisor.Concept
