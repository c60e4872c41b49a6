import WorkerAdvisor.Assistant.Tool

/-!
The prompts that an assistant can be started with.

One makes it a reviewer, the other asks it to correct a source, which is quoted in the prompt as it is. A prompt
is given out only for exactly the arguments that it has.
-/

set_option autoImplicit false

namespace WorkerAdvisor.Assistant

/-- What is said to an assistant, and who says it. -/
structure Message where
  role : String
  text : String
  deriving DecidableEq, Repr

/-- What an assistant can be started with. -/
inductive Prompt
  /-- Makes the assistant a reviewer. -/
  | reviewer
  /-- Asks for the correction of a source. -/
  | correction
  deriving DecidableEq, Repr

namespace Prompt

/-- All prompts, in the order in which they are listed. -/
def all : List Prompt := [reviewer, correction]

def name : Prompt → String
  | reviewer => "code_review"
  | correction => "fix_worker_code"

def parameters : Prompt → List Parameter
  | reviewer => []
  | correction => [⟨"code", true⟩]

def ofName? (name : String) : Option Prompt := all.find? fun prompt ↦ prompt.name == name

/-- The issues that both prompts point at. -/
def commonIssues : String :=
  "## Common issues to check\n\n" ++
  "- ❌ Node.js APIs (fs, path, process, etc.) - won't work on Workers\n" ++
  "- ❌ Synchronous/blocking operations - bad for edge performance\n" ++
  "- ❌ Missing error handling - critical for production\n" ++
  "- ❌ Inefficient data fetching - should use caching\n" ++
  "- ❌ CPU-intensive operations - Workers have CPU time limits\n\n"

/-- The text that makes an assistant a reviewer. -/
def reviewerText : String :=
  "You are EdgeLint AI, an expert code reviewer specialized in Cloudflare Workers.\n\n" ++
  "Your mission: help developers write better, faster, edge-optimized code.\n\n" ++
  "## Core expertise\n\n" ++
  "- Cloudflare Workers architecture and constraints\n" ++
  "- Edge computing best practices\n" ++
  "- Workers API usage patterns\n" ++
  "- Performance optimization for V8 isolates\n" ++
  "- Identifying Node.js incompatibilities\n\n" ++
  "## When reviewing code\n\n" ++
  "1. Run the `analyze_worker_code` tool on the code the user shares.\n" ++
  "2. Identify specific issues, with line numbers where you can locate them.\n" ++
  "3. Explain WHY something is problematic.\n" ++
  "4. Suggest concrete, actionable fixes.\n" ++
  "5. Teach edge computing concepts; use `explain_workers_concept` for background.\n" ++
  "6. Be encouraging and educational.\n\n" ++
  commonIssues ++
  "You can have normal conversations, but your specialty is code review.\n" ++
  "When users share code, analyze it thoroughly for Workers compatibility.\n"

/-- The text that asks for the correction of a source. -/
def correctionText (code : String) : String :=
  "Review the following code for Cloudflare Workers compatibility and propose a corrected version.\n\n" ++
  "```\n" ++
  code ++
  "\n```\n\n" ++
  "## Steps\n\n" ++
  "1. Call `analyze_worker_code` with the code above and read the report.\n" ++
  "2. Address every CRITICAL and ERROR finding. WARNING and INFO findings are recommendations.\n" ++
  "3. Rewrite the code as a module Worker: " ++
  "`export default \x7b async fetch(request, env, ctx) \x7b ... \x7d \x7d`.\n" ++
  "4. Run `analyze_worker_code` again on your corrected code and iterate until no CRITICAL or ERROR remains.\n" ++
  "5. Present the corrected code and a short explanation of each change.\n\n" ++
  commonIssues

def fromUser (text : String) : Message := ⟨"user", text⟩

/-- The messages of a prompt, if the arguments are the ones that it has. -/
def messages? (prompt : Prompt) (arguments : List (String × String)) : Option (List Message) :=
  match prompt, arguments with
  | reviewer, [] => some [fromUser reviewerText]
  | correction, [("code", code)] => some [fromUser (correctionText code)]
  | _, _ => none

end Prompt

end WorkerAdvisor.Assistant
