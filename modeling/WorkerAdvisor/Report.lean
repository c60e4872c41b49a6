import WorkerAdvisor.Finding

/-!
The report on a list of findings.

Findings are grouped by severity, the most urgent group first, and numbered within their group in the order
of the list. A group without findings is left out, and a report without findings is a fixed text.
-/

set_option autoImplicit false

namespace WorkerAdvisor.Report

/-- The report on a source without findings. -/
def allClear : String :=
  "✅ Code looks good! No major issues detected.\n\nThis code appears to be Workers-compatible. Great job!\n\n" ++
    "Optional best practices:\n- Cache repeated upstream fetches with the Cache API.\n" ++
    "- Keep CPU-heavy work small; Workers have CPU time limits.\n" ++
    "- Use KV, R2, D1 or Durable Objects for anything that must persist.\n" ++
    "- Return explicit status codes and headers on error Responses."

def descriptionIndent : String := "   "

/-- The lines of one finding, the `number`-th of its group. -/
def findingLines (number : Nat) (finding : Finding) : List String :=
  [toString number ++ ". " ++ finding.title, descriptionIndent ++ finding.description]

def numberedLines : (number : Nat) → List Finding → List String
  | _, [] => []
  | number, finding :: findings => findingLines number finding ++ numberedLines (number + 1) findings

/-- The findings of one severity, in order. -/
def group (severity : Severity) (findings : List Finding) : List Finding :=
  findings.filter fun finding ↦ finding.severity = severity

/-- The lines of one group: a heading with its size, the findings, and a blank line. -/
def groupLines (severity : Severity) (members : List Finding) : List String :=
  if members.isEmpty then []
  else
    ["## " ++ severity.label ++ " (" ++ toString members.length ++ ")", ""] ++ numberedLines 1 members ++ [""]

/-- The first line of a report with findings. -/
def header (count : Nat) : String :=
  "Found " ++ toString count ++ " issue(s) that may affect Workers compatibility:"

def lines (findings : List Finding) : List String :=
  [header findings.length, ""] ++ Severity.all.flatMap fun severity ↦ groupLines severity (group severity findings)

/-- A text without the line ends that it ends in. -/
def trimEnd (content : String) : String :=
  String.ofList (Text.dropEndWhile (· == '\n') content.toList)

/-- The report on a list of findings. -/
def render (findings : List Finding) : String :=
  if findings.isEmpty then allClear else trimEnd (String.intercalate "\n" (lines findings))

end WorkerAdvisor.Report
