import WorkerAdvisor.Analysis
import WorkerAdvisor.Assistant.Prompt
import WorkerAdvisor.Concept.Desk
import WorkerAdvisor.Report
import WorkerAdvisor.Resource

/-!
A session with an assistant: what it asks for, and what it is answered.

One desk answers all questions about concepts, by tool or by resource. A question about an empty concept, and a
knowledge base that cannot be used, are answered with a report of the error; every other failure of a tool is a
failure of the call. A resource that cannot be made is simply not there.
-/

set_option autoImplicit false

namespace WorkerAdvisor.Assistant

/-- An error that the caller of a tool is told about. -/
inductive ReportedError
  | emptyConcept (shown : String)
  | unusable (reason : Concept.Unusable)
  deriving DecidableEq, Repr

namespace ReportedError

/-- The report of an error, if it is one that is reported. -/
def ofError? : Concept.QuestionError → Option ReportedError
  | .emptyConcept shown => some (emptyConcept shown)
  | .load (.unusable reason) => some (unusable reason)
  | .load .undecodable | .load (.noValue _) | .notText _ => none

def message (directory : String) : ReportedError → String
  | emptyConcept shown => Concept.emptyConceptMessage shown
  | unusable reason => reason.message (Concept.Desk.path directory)

end ReportedError

inductive ToolAnswer
  | review (report : String)
  | rules (catalog : List Rule)
  | explanation (answer : Concept.Explanation)
  | headings (answer : List Concept.Heading)
  | report (error : ReportedError)

/-- What an assistant asks for. -/
inductive Request
  | callTool (name : String) (arguments : List (String × Argument))
  | readResource (address : String)
  | getPrompt (name : String) (arguments : List (String × String))
  | listTools
  | listResources
  | listPrompts

/-- What an assistant is answered. -/
inductive Answer
  | tool (answer : ToolAnswer)
  | toolFailure
  | resource (content : String)
  | prompt (messages : List Message)
  /-- There is no such resource or prompt. -/
  | unavailable
  | tools (all : List Tool)
  | resources (all : List Resource)
  | prompts (all : List Prompt)

/-- A session: the rules it reviews by, the directory of its knowledge base, and its desk. -/
structure Session where
  catalog : List Rule
  directory : String
  desk : Concept.Desk

namespace Session

/-- A session in which nothing was asked yet. -/
def fresh (catalog : List Rule) (directory : String) : Session := ⟨catalog, directory, .fresh⟩

/-- The answer of a tool that asked the desk, and the session after it. -/
def afterQuestion {α : Type} (session : Session) (outcome : Concept.Outcome α) (answer : α → ToolAnswer) :
    Answer × Session :=
  let next := { session with desk := outcome.desk }
  match outcome.answer with
  | .ok found => (.tool (answer found), next)
  | .error error =>
    match ReportedError.ofError? error with
    | some report => (.tool (.report report), next)
    | none => (.toolFailure, next)

/-- The answer to a call, and the session after it. -/
def call (session : Session) (file : Concept.File) : ToolCall → Answer × Session
  | .review code _ =>
    (.tool (.review (Report.render (Analysis.findings session.catalog code))), session)
  | .listRules => (.tool (.rules session.catalog), session)
  | .explain concept =>
    session.afterQuestion (session.desk.explain session.directory file (.text concept)) .explanation
  | .listConcepts => session.afterQuestion (session.desk.list session.directory file) .headings

/-- The answer to a reading of a resource, and the session after it. -/
def read (session : Session) (file : Concept.File) : Resource → Answer × Session
  | .rules => (.resource (Resource.ruleListing session.catalog).print, session)
  | .concepts =>
    let outcome := session.desk.knowledgeBase session.directory file
    let answer := match outcome.answer with
      | .ok entries => .resource (Resource.conceptListing entries).print
      | .error _ => .unavailable
    (answer, { session with desk := outcome.desk })

/-- The answer to a request, and the session after it. -/
def step (session : Session) (file : Concept.File) : Request → Answer × Session
  | .callTool name arguments =>
    match (Tool.ofName? name).bind fun tool ↦ ToolCall.ofArguments? tool arguments with
    | some accepted => session.call file accepted
    | none => (.toolFailure, session)
  | .readResource address =>
    match Resource.ofAddress? address with
    | some resource => session.read file resource
    | none => (.unavailable, session)
  | .getPrompt name arguments =>
    match (Prompt.ofName? name).bind fun prompt ↦ prompt.messages? arguments with
    | some messages => (.prompt messages, session)
    | none => (.unavailable, session)
  | .listTools => (.tools Tool.all, session)
  | .listResources => (.resources Resource.all, session)
  | .listPrompts => (.prompts Prompt.all, session)

/-- The answers to requests in order, while the file stays as it is. -/
def run (session : Session) (file : Concept.File) : List Request → List Answer
  | [] => []
  | request :: requests =>
    let (answer, next) := session.step file request
    answer :: next.run file requests

end Session

end WorkerAdvisor.Assistant
