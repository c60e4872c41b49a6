import WorkerAdvisor.Value

/-!
The tools that an assistant can call, and calls of them.

A call names a tool and gives arguments by name. It is accepted if the arguments fit the parameters of the tool:
every one is a parameter, the required ones are there, and each is a text. The name of a file may also be null,
which is the same as leaving it out.
-/

set_option autoImplicit false

namespace WorkerAdvisor.Assistant

structure Parameter where
  name : String
  isRequired : Bool
  deriving DecidableEq, Repr

/-- What an assistant can have done. -/
inductive Tool
  | review
  | listRules
  | explain
  | listConcepts
  deriving DecidableEq, Repr

namespace Tool

/-- All tools, in the order in which they are listed. -/
def all : List Tool := [review, listRules, explain, listConcepts]

def name : Tool → String
  | review => "analyze_worker_code"
  | listRules => "list_rules"
  | explain => "explain_workers_concept"
  | listConcepts => "list_workers_concepts"

def parameters : Tool → List Parameter
  | review => [⟨"code", true⟩, ⟨"filename", false⟩]
  | explain => [⟨"concept", true⟩]
  | listRules | listConcepts => []

def ofName? (name : String) : Option Tool := all.find? fun tool ↦ tool.name == name

end Tool

/-- A call with arguments that fit the tool. -/
inductive ToolCall
  | review (code : String) (filename : Option String)
  | listRules
  | explain (concept : String)
  | listConcepts
  deriving DecidableEq, Repr

namespace ToolCall

/-- The argument of a name. If there are several, the last one counts. -/
def argument? (arguments : List (String × Argument)) (name : String) : Option Argument :=
  arguments.reverse.lookup name

/-- The argument for a parameter that takes a text. -/
def textArgument? (arguments : List (String × Argument)) (name : String) : Option String :=
  match argument? arguments name with
  | some (.text content) => some content
  | _ => none

/-- The argument for a parameter that takes a text or nothing. -/
def optionalTextArgument? (arguments : List (String × Argument)) (name : String) : Option (Option String) :=
  match argument? arguments name with
  | none | some .null => some none
  | some (.text content) => some (some content)
  | some _ => none

/-- The call of a tool with some arguments, if they fit. -/
def ofArguments? (tool : Tool) (arguments : List (String × Argument)) : Option ToolCall :=
  if arguments.all fun argument ↦ (tool.parameters.map (·.name)).contains argument.1 then
    match tool with
    | .review => do
      let code ← textArgument? arguments "code"
      let filename ← optionalTextArgument? arguments "filename"
      return review code filename
    | .listRules => some listRules
    | .explain => (textArgument? arguments "concept").map explain
    | .listConcepts => some listConcepts
  else none

end ToolCall

end WorkerAdvisor.Assistant
