import WorkerAdvisor.Concept.KnowledgeBase
import WorkerAdvisor.Concept.Lookup
import WorkerAdvisor.Log

/-!
The desk that answers questions about concepts.

A desk loads its knowledge base at the first question that needs it. A failed attempt leaves it as it was, so
that the next question tries again; after a success the file does not matter any more. What is asked is any
argument that a caller can send, and it is checked before the file is looked at.

`World.step` is one step in the life of a desk and its file: a question, a change of the file, or a new desk.
-/

set_option autoImplicit false

namespace WorkerAdvisor.Concept

/-- Why a question has no answer. -/
inductive QuestionError
  /-- The concept is empty; it is shown in the message. -/
  | emptyConcept (shown : String)
  /-- The concept is no text. -/
  | notText (typeName : String)
  | load (error : LoadError)
  deriving DecidableEq, Repr

def emptyConceptMessage (shown : String) : String := "Concept must be a non-empty string: " ++ shown

/-- The answer to a question about one concept. -/
inductive Explanation
  | found (entry : Entry)
  | unknown (concept : String)
  deriving DecidableEq, Repr

def unknownMessage (concept : String) : String := "Requesting explanation for: " ++ concept

structure Heading where
  id : String
  title : String
  deriving DecidableEq, Repr

/-- A desk: what it has loaded, if anything. -/
structure Desk where
  loaded : Option (List Entry)
  deriving DecidableEq, Repr

/-- What comes of a question: the answer, the desk after it, and what was logged. -/
structure Outcome (α : Type) where
  answer : Except QuestionError α
  desk : Desk
  log : List LogRecord

namespace Desk

/-- A desk that has loaded nothing. -/
def fresh : Desk := ⟨none⟩

def path (directory : String) : String := directory ++ "/" ++ fileName

/-- Answers with a function of the entries, which are loaded if need be. -/
def ask {α : Type} (desk : Desk) (directory : String) (file : File) (answer : List Entry → α) : Outcome α :=
  match desk.loaded with
  | some entries => ⟨.ok (answer entries), desk, []⟩
  | none =>
    match KnowledgeBase.load file with
    | .error error => ⟨.error (.load error), desk, []⟩
    | .ok entries =>
      ⟨.ok (answer entries), ⟨some entries⟩,
        [⟨.debug, "Loaded " ++ toString entries.length ++ " concepts from " ++ path directory⟩]⟩

/-- The text of a concept that is asked for. -/
def concept (asked : Argument) : Except QuestionError String :=
  match asked.emptyForm? with
  | some shown => .error (.emptyConcept shown)
  | none =>
    match asked with
    | .text content => .ok content
    | other => .error (.notText other.typeName)

/-- The explanation of a concept by the entries of a knowledge base. -/
def explanation (concept : String) (entries : List Entry) : Explanation :=
  match find entries (normalize concept) with
  | some entry => .found entry
  | none => .unknown concept

def explain (desk : Desk) (directory : String) (file : File) (asked : Argument) : Outcome Explanation :=
  match concept asked with
  | .error error => ⟨.error error, desk, []⟩
  | .ok concept =>
    let outcome := desk.ask directory file (explanation concept)
    { outcome with log := ⟨.info, "Explaining concept: " ++ concept⟩ :: outcome.log }

/-- Lists the ids and titles of all entries. -/
def list (desk : Desk) (directory : String) (file : File) : Outcome (List Heading) :=
  desk.ask directory file fun entries ↦ entries.map fun entry ↦ ⟨entry.id, entry.title⟩

/-- Gives out all entries. -/
def knowledgeBase (desk : Desk) (directory : String) (file : File) : Outcome (List Entry) :=
  desk.ask directory file id

end Desk

/-! ### Whole runs -/

/-- A desk and the file of its knowledge base. -/
structure World where
  file : File
  desk : Desk

/-- What can happen to a desk and its file. -/
inductive Event
  | explain (asked : Argument)
  | list
  | knowledgeBase
  | write (content : ByteArray)
  | delete
  | newDesk

inductive Reply
  | explanation (answer : Explanation)
  | headings (answer : List Heading)
  | entries (answer : List Entry)
  | failure (error : QuestionError)
  | done
  /-- There is no file to delete. -/
  | noFile

namespace World

/-- What an outcome means for the world: the desk changes, and the file does not. -/
def afterQuestion {α : Type} (world : World) (outcome : Outcome α) (reply : α → Reply) :
    Reply × World × List LogRecord :=
  let answer := match outcome.answer with
    | .ok answer => reply answer
    | .error error => .failure error
  (answer, { world with desk := outcome.desk }, outcome.log)

/-- One event: the reply, the world after it, and what was logged. -/
def step (directory : String) (world : World) : Event → Reply × World × List LogRecord
  | .explain asked => world.afterQuestion (world.desk.explain directory world.file asked) .explanation
  | .list => world.afterQuestion (world.desk.list directory world.file) .headings
  | .knowledgeBase => world.afterQuestion (world.desk.knowledgeBase directory world.file) .entries
  | .write content => (.done, { world with file := some content }, [])
  | .delete =>
    match world.file with
    | none => (.noFile, world, [])
    | some _ => (.done, { world with file := none }, [])
  | .newDesk => (.done, { world with desk := .fresh }, [])

/-- A run of events: each reply with what was logged, and the world in the end. -/
def run (directory : String) (world : World) : List Event → List (Reply × List LogRecord) × World
  | [] => ([], world)
  | event :: events =>
    let (reply, next, log) := world.step directory event
    let (replies, last) := next.run directory events
    ((reply, log) :: replies, last)

end World

end WorkerAdvisor.Concept
