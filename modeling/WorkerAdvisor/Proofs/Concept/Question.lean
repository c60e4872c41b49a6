import WorkerAdvisor.Concept.Desk

/-!
Questions to a desk.

A question is answered by the entries of the knowledge base and by nothing else: however it is put, the desk looks
at the knowledge base in the same way, and the reply is made of what comes of that (`step_question`). An
explanation of what is no question is refused in every state, and leaves every state as it was (`step_refused`).
-/

set_option autoImplicit false

namespace WorkerAdvisor.Concept

/-! ### Questions -/

/-- Whether an event is a question that the entries of a knowledge base answer. An explanation is one if the
concept is a text that is not blank. -/
def Event.needsEntries : Event → Bool
  | .explain (.text concept) => !concept.toList.all Text.isBlank
  | .list | .knowledgeBase => true
  | .explain _ | .write _ | .delete | .newDesk => false

/-- The reply that entries give to a question. -/
def Event.replyFrom (entries : List Entry) : Event → Reply
  | .explain (.text concept) => .explanation (Desk.explanation concept entries)
  | .list => .headings (entries.map fun entry ↦ ⟨entry.id, entry.title⟩)
  | .knowledgeBase => .entries entries
  | .explain _ | .write _ | .delete | .newDesk => .done

/-- Why an explanation is refused before the knowledge base is looked at. -/
def refusal (asked : Argument) : QuestionError :=
  match asked.emptyForm? with
  | some shown => .emptyConcept shown
  | none => .notText asked.typeName

/-- A text that is not blank is taken as it is. -/
theorem concept_text {content : String} (hwords : content.toList.all Text.isBlank = false) :
    Desk.concept (.text content) = .ok content := by
  simp [Desk.concept, Argument.emptyForm?, hwords]

/-- What is no question is refused before anything else is looked at. -/
theorem concept_refused {asked : Argument} (hasked : (Event.explain asked).needsEntries = false) :
    Desk.concept asked = .error (refusal asked) := by
  unfold Desk.concept refusal
  cases hempty : asked.emptyForm? with
  | some shown => rfl
  | none =>
    cases asked with
    | text content => simp_all [Event.needsEntries, Argument.emptyForm?]
    | _ => rfl

/-! ### One step -/

/-- An explanation that is refused is refused for the same reason in every state. It changes nothing, and
nothing is logged. -/
theorem step_refused (directory : String) (world : World) {asked : Argument}
    (hasked : (Event.explain asked).needsEntries = false) :
    world.step directory (.explain asked) = (.failure (refusal asked), world, []) := by
  simp only [World.step, Desk.explain, concept_refused hasked, World.afterQuestion]

/-- What is logged about a question before the knowledge base is looked at. -/
def Event.preface : Event → List LogRecord
  | .explain (.text concept) => [⟨.info, "Explaining concept: " ++ concept⟩]
  | _ => []

/-- The reply to a question, given what came of looking at the knowledge base. -/
def Event.reply (event : Event) : Except QuestionError (List Entry) → Reply
  | .ok entries => event.replyFrom entries
  | .error error => .failure error

/-- Looking at the knowledge base on behalf of a question is looking at it, and answering by its entries. -/
theorem ask_eq {α : Type} (desk : Desk) (directory : String) (file : File) (answer : List Entry → α) :
    desk.ask directory file answer =
      ⟨(desk.knowledgeBase directory file).answer.map answer, (desk.knowledgeBase directory file).desk,
        (desk.knowledgeBase directory file).log⟩ := by
  unfold Desk.knowledgeBase Desk.ask
  cases desk.loaded with
  | some entries => rfl
  | none => cases KnowledgeBase.load file <;> rfl

/-- Every question looks at the knowledge base in the same way: the reply is made of its entries, and the desk is
left as looking at them leaves it. -/
theorem step_question (directory : String) (world : World) {event : Event}
    (hquestion : event.needsEntries = true) :
    world.step directory event =
      (event.reply (world.desk.knowledgeBase directory world.file).answer,
        { world with desk := (world.desk.knowledgeBase directory world.file).desk },
        event.preface ++ (world.desk.knowledgeBase directory world.file).log) := by
  cases event with
  | explain asked =>
    cases asked with
    | text content =>
      have hwords : content.toList.all Text.isBlank = false := by
        simpa [Event.needsEntries] using hquestion
      simp only [World.step, Desk.explain, concept_text hwords, ask_eq, World.afterQuestion]
      cases (world.desk.knowledgeBase directory world.file).answer <;> rfl
    | _ => simp [Event.needsEntries] at hquestion
  | list =>
    simp only [World.step, Desk.list, ask_eq, World.afterQuestion]
    cases (world.desk.knowledgeBase directory world.file).answer <;> rfl
  | knowledgeBase =>
    simp only [World.step, World.afterQuestion]
    cases (world.desk.knowledgeBase directory world.file).answer <;> rfl
  | _ => simp [Event.needsEntries] at hquestion

/-- A file is loaded as the entries that its text holds. -/
theorem KnowledgeBase.load_of_toOption {text : String} {entries : List Entry}
    (hentries : (KnowledgeBase.ofText text).toOption = some entries) :
    KnowledgeBase.load (some text.toUTF8) = .ok entries := by
  rw [KnowledgeBase.load_toUTF8]
  cases htext : KnowledgeBase.ofText text with
  | ok found => simpa [htext, Except.toOption] using hentries
  | error error => simp [htext, Except.toOption] at hentries

/-- A desk that holds entries does not look at the file. -/
theorem knowledgeBase_of_loaded (directory : String) (file : File) {desk : Desk} {entries : List Entry}
    (hloaded : desk.loaded = some entries) :
    desk.knowledgeBase directory file = ⟨.ok entries, desk, []⟩ := by
  simp [Desk.knowledgeBase, Desk.ask, hloaded]

/-- A desk that holds nothing holds afterwards what could be loaded. -/
theorem desk_of_unloaded (directory : String) {file : File} {desk : Desk} (hfresh : desk.loaded = none) :
    (desk.knowledgeBase directory file).desk.loaded = (KnowledgeBase.load file).toOption := by
  unfold Desk.knowledgeBase Desk.ask
  rw [hfresh]
  cases KnowledgeBase.load file with
  | ok entries => rfl
  | error error => exact hfresh

/-- A desk that holds nothing is a fresh desk. -/
theorem eq_fresh {desk : Desk} (hfresh : desk.loaded = none) : desk = .fresh := by
  cases desk
  simp_all [Desk.fresh]

/-- A failure leaves the desk as it was. -/
theorem desk_of_error (directory : String) {file : File} {desk : Desk} {error : QuestionError}
    (herror : (desk.knowledgeBase directory file).answer = .error error) :
    (desk.knowledgeBase directory file).desk = desk := by
  unfold Desk.knowledgeBase Desk.ask at herror ⊢
  cases hloaded : desk.loaded with
  | some entries => rfl
  | none =>
    rw [hloaded] at herror
    cases hload : KnowledgeBase.load file with
    | error reason => rfl
    | ok entries => rw [hload] at herror; cases herror

/-- A desk that has given out entries holds them. -/
theorem loaded_of_ok {directory : String} {file : File} {desk : Desk} {entries : List Entry}
    (hentries : (desk.knowledgeBase directory file).answer = .ok entries) :
    (desk.knowledgeBase directory file).desk.loaded = some entries := by
  unfold Desk.knowledgeBase Desk.ask at hentries ⊢
  cases hloaded : desk.loaded with
  | some loaded => simp_all
  | none => cases hload : KnowledgeBase.load file <;> simp_all

/-- A question fails exactly if looking at the knowledge base does. -/
theorem reply_eq_failure_iff {event : Event} {answer : Except QuestionError (List Entry)} {error : QuestionError} :
    event.reply answer = .failure error ↔ answer = .error error := by
  cases answer with
  | error reason => simp [Event.reply]
  | ok entries =>
    suffices event.replyFrom entries ≠ .failure error by simpa [Event.reply]
    unfold Event.replyFrom
    split <;> simp

/-- A question that fails leaves the world as it was. -/
theorem step_failure (directory : String) {world : World} {event : Event} {error : QuestionError}
    (hquestion : event.needsEntries = true) (hfailure : (world.step directory event).1 = .failure error) :
    (world.step directory event).2.1 = world := by
  rw [step_question directory world hquestion] at hfailure ⊢
  have herror := reply_eq_failure_iff.mp hfailure
  simp only [desk_of_error directory herror]

end WorkerAdvisor.Concept
