import WorkerAdvisor.Field.Integer
import WorkerAdvisor.Rule

/-!
Findings: the hits of rules in a source.
-/

set_option autoImplicit false

namespace WorkerAdvisor

/-- One rule that applies to one source. The search is for a text as a whole, so `line` is known only where
a finding comes in as data. -/
structure Finding where
  ruleId : String
  severity : Severity
  title : String
  description : String
  line : Option Int
  deriving DecidableEq, Repr

namespace Finding

def ofRule (rule : Rule) : Finding :=
  { ruleId := rule.id, severity := rule.severity, title := rule.title, description := rule.description,
    line := none }

/-- A line number, or nothing. -/
def lineField (place : List FieldStep) : Value → Checked (Option Int)
  | .null => .ok none
  | value => (Field.integer place value).map some

def ofFields (fields : List (String × Value)) : Checked Finding :=
  let ruleId := Field.required fields "rule_id" Field.text
  let severity := Field.required fields "severity" Field.severity
  let title := Field.required fields "title" Field.text
  let description := Field.required fields "description" Field.text
  let line := Field.optional fields "line" none lineField
  match ruleId, severity, title, description, line with
  | .ok ruleId, .ok severity, .ok title, .ok description, .ok line =>
    .ok { ruleId, severity, title, description, line }
  | _, _, _, _, _ =>
    .error (ruleId.errors ++ severity.errors ++ title.errors ++ description.errors ++ line.errors)

def ofValue : Value → Checked Finding
  | .mapping fields => ofFields fields
  | _ => .error [⟨[], .notRecord⟩]

end Finding

end WorkerAdvisor
