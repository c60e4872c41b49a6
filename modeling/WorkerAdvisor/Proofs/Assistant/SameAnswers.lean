import WorkerAdvisor.Assistant.Session
import WorkerAdvisor.Proofs.Concept.Question

/-!
Sessions that answer alike.

A desk knows entries if it holds them, or holds none and its file holds them. A session is answered by its rules and the
entries that its desk knows, and no request changes either (`Knows.step`). So two sessions with the same rules whose
desks know the same entries, whatever their directories and files are, give the same answers to all requests
(`run_eq_of_knows`).
-/

set_option autoImplicit false

namespace WorkerAdvisor

/-! ### Desks -/

namespace Concept

variable {desk : Desk} {file : File} {entries : List Entry}

/-- Whether a desk answers by these entries: it holds them, or is about to load them. -/
def Desk.Knows (desk : Desk) (file : File) (entries : List Entry) : Prop :=
  match desk.loaded with
  | some loaded => loaded = entries
  | none => KnowledgeBase.load file = .ok entries

theorem Desk.knows_of_loaded (file : File) (hloaded : desk.loaded = some entries) : desk.Knows file entries := by
  simp [Desk.Knows, hloaded]

/-- A fresh desk knows the entries that its file can be loaded as. -/
theorem Desk.knows_fresh (hload : KnowledgeBase.load file = .ok entries) : Desk.fresh.Knows file entries := hload

/-- A desk that knows entries answers by them, and holds them afterwards. -/
theorem ask_of_knows {α : Type} (directory : String) (answer : List Entry → α) (hknows : desk.Knows file entries) :
    (desk.ask directory file answer).answer = .ok (answer entries) ∧
      (desk.ask directory file answer).desk.Knows file entries := by
  unfold Desk.ask
  cases hloaded : desk.loaded with
  | some loaded =>
    have hsame : loaded = entries := by simpa [Desk.Knows, hloaded] using hknows
    exact ⟨by rw [hsame], hknows⟩
  | none =>
    have hload : KnowledgeBase.load file = .ok entries := by simpa [Desk.Knows, hloaded] using hknows
    simp only [hload]
    exact ⟨trivial, Desk.knows_of_loaded file rfl⟩

/-- An explanation is refused, or made of the entries. -/
theorem explain_of_knows (directory : String) (asked : Argument) (hknows : desk.Knows file entries) :
    (desk.explain directory file asked).answer = (Desk.concept asked).map (Desk.explanation · entries) ∧
      (desk.explain directory file asked).desk.Knows file entries := by
  unfold Desk.explain
  cases Desk.concept asked with
  | error error => exact ⟨rfl, hknows⟩
  | ok concept => exact ask_of_knows directory (Desk.explanation concept) hknows

end Concept

/-! ### Sessions -/

namespace Assistant

open WorkerAdvisor.Concept

variable {session first second : Session} {file other : File} {catalog : List Rule} {entries : List Entry}

/-- Whether a session reviews by these rules and answers by these entries. -/
structure Session.Knows (session : Session) (file : File) (catalog : List Rule) (entries : List Entry) : Prop where
  rules : session.catalog = catalog
  entries : session.desk.Knows file entries

theorem next_afterQuestion {α : Type} (session : Session) (outcome : Outcome α) (answer : α → ToolAnswer) :
    (session.afterQuestion outcome answer).2 = { session with desk := outcome.desk } := by
  unfold Session.afterQuestion
  cases outcome.answer with
  | ok found => rfl
  | error error => cases hreport : ReportedError.ofError? error <;> simp [hreport]

/-- Sessions answer alike where their desks do. -/
theorem answer_afterQuestion_congr {α : Type} {outcome otherOutcome : Outcome α} (answer : α → ToolAnswer)
    (hanswer : outcome.answer = otherOutcome.answer) :
    (first.afterQuestion outcome answer).1 = (second.afterQuestion otherOutcome answer).1 := by
  unfold Session.afterQuestion
  rw [hanswer]
  cases otherOutcome.answer with
  | ok found => rfl
  | error error => cases hreport : ReportedError.ofError? error <;> simp [hreport]

/-- A session that knows the desk that a question leaves is a session with that desk. -/
theorem Session.Knows.afterQuestion {α : Type} {outcome : Outcome α} {answer : α → ToolAnswer}
    (hknows : session.Knows file catalog entries) (hdesk : outcome.desk.Knows file entries) :
    (session.afterQuestion outcome answer).2.Knows file catalog entries := by
  rw [next_afterQuestion]
  exact ⟨hknows.rules, hdesk⟩

/-- No request changes what a session answers by. -/
theorem Session.Knows.step (hknows : session.Knows file catalog entries) (request : Request) :
    (session.step file request).2.Knows file catalog entries := by
  cases request with
  | callTool name arguments =>
    rw [Session.step]
    split
    · rename_i accepted _
      cases accepted with
      | review | listRules => exact hknows
      | explain concept => exact hknows.afterQuestion (explain_of_knows _ _ hknows.entries).2
      | listConcepts => exact hknows.afterQuestion (ask_of_knows _ _ hknows.entries).2
    · exact hknows
  | readResource address =>
    rw [Session.step]
    split
    · rename_i resource _
      cases resource with
      | rules => exact hknows
      | concepts => exact ⟨hknows.rules, (ask_of_knows _ id hknows.entries).2⟩
    · exact hknows
  | getPrompt name arguments =>
    rw [Session.step]
    split <;> exact hknows
  | listTools | listResources | listPrompts => exact hknows

/-- An accepted call is answered by the rules and the entries alone. -/
theorem call_eq_of_knows (hfirst : first.Knows file catalog entries) (hsecond : second.Knows other catalog entries)
    (accepted : ToolCall) : (first.call file accepted).1 = (second.call other accepted).1 := by
  cases accepted with
  | review code filename => rw [Session.call, Session.call, hfirst.rules, hsecond.rules]
  | listRules => rw [Session.call, Session.call, hfirst.rules, hsecond.rules]
  | explain concept =>
    refine answer_afterQuestion_congr .explanation ?_
    rw [(explain_of_knows _ _ hfirst.entries).1, (explain_of_knows _ _ hsecond.entries).1]
  | listConcepts =>
    refine answer_afterQuestion_congr .headings ?_
    exact (ask_of_knows _ _ hfirst.entries).1.trans (ask_of_knows _ _ hsecond.entries).1.symm

/-- What is read at a resource where the entries are known. -/
theorem read_of_knows (hknows : session.Knows file catalog entries) (resource : Resource) :
    (session.read file resource).1 = .resource (match resource with
      | .rules => (Resource.ruleListing catalog).print
      | .concepts => (Resource.conceptListing entries).print) := by
  cases resource with
  | rules => rw [Session.read, hknows.rules]
  | concepts =>
    have hanswer : (session.desk.knowledgeBase session.directory file).answer = .ok entries :=
      (ask_of_knows _ id hknows.entries).1
    simp only [Session.read, hanswer]

/-- A request is answered by the rules and the entries alone. -/
theorem step_eq_of_knows (hfirst : first.Knows file catalog entries) (hsecond : second.Knows other catalog entries)
    (request : Request) : (first.step file request).1 = (second.step other request).1 := by
  cases request with
  | callTool name arguments =>
    rw [Session.step, Session.step]
    split
    · exact call_eq_of_knows hfirst hsecond _
    · rfl
  | readResource address =>
    rw [Session.step, Session.step]
    split
    · rw [read_of_knows hfirst, read_of_knows hsecond]
    · rfl
  | getPrompt name arguments =>
    rw [Session.step, Session.step]
    split <;> rfl
  | listTools | listResources | listPrompts => rfl

/-- Sessions with the same rules and entries give the same answers to all requests. -/
theorem run_eq_of_knows (hfirst : first.Knows file catalog entries) (hsecond : second.Knows other catalog entries)
    (requests : List Request) : first.run file requests = second.run other requests := by
  induction requests generalizing first second with
  | nil => rfl
  | cons request requests ih =>
    rw [Session.run, Session.run]
    simp only [step_eq_of_knows hfirst hsecond, ih (hfirst.step request) (hsecond.step request)]

end Assistant

end WorkerAdvisor
