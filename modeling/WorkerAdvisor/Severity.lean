/-!
Severity of a finding.

The four severities are totally ordered by urgency, and reports list their groups in that order.
-/

set_option autoImplicit false

namespace WorkerAdvisor

/-- How urgent a finding is, from the most urgent to the least. -/
inductive Severity
  | critical
  | error
  | warning
  | info
  deriving DecidableEq, Repr

namespace Severity

def all : List Severity := [critical, error, warning, info]

/-- The place in the order of urgency; zero is the most urgent. -/
def rank : Severity → Nat
  | critical => 0
  | error => 1
  | warning => 2
  | info => 3

/-- The word for a severity in data. -/
def word : Severity → String
  | critical => "critical"
  | error => "error"
  | warning => "warning"
  | info => "info"

/-- The severity that a word names; words are told apart by letter case. -/
def ofWord? (word : String) : Option Severity :=
  all.find? fun severity ↦ severity.word == word

def name : Severity → String
  | critical => "CRITICAL"
  | error => "ERROR"
  | warning => "WARNING"
  | info => "INFO"

def icon : Severity → String
  | critical => "❌"
  | error => "🚫"
  | warning => "⚠️"
  | info => "ℹ️"

/-- The sign and the name. -/
def label (severity : Severity) : String :=
  severity.icon ++ " " ++ severity.name

end Severity

end WorkerAdvisor
