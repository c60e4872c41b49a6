import WorkerAdvisor.Field
import WorkerAdvisor.Severity

/-!
Rules: what a source is checked for, and how a hit is described.

`Rule.ofDraft` checks the fields of a rule that comes in as data, all of them, in the order in which they are
declared.
-/

set_option autoImplicit false

namespace WorkerAdvisor

/-- A rule. Its trigger says of a source text whether the rule applies. -/
structure Rule where
  id : String
  severity : Severity
  title : String
  description : String
  trigger : String → Bool

namespace Field

/-- A severity, by its word. -/
def severity (place : List FieldStep) : Value → Checked Severity
  | .text word =>
    match Severity.ofWord? word with
    | some severity => .ok severity
    | none => .error [⟨place, .notSeverity⟩]
  | _ => .error [⟨place, .notSeverity⟩]

end Field

/-- A rule before its fields are checked. `trigger` is absent, or present and perhaps nothing that can be
applied to a source. -/
structure Rule.Draft where
  fields : List (String × Value)
  trigger : Option (Option (String → Bool))

def Rule.Draft.checkedTrigger (draft : Rule.Draft) : Checked (String → Bool) :=
  match draft.trigger with
  | none => .error [⟨[.name "trigger"], .missing⟩]
  | some none => .error [⟨[.name "trigger"], .notCallable⟩]
  | some (some trigger) => .ok trigger

def Rule.ofDraft (draft : Rule.Draft) : Checked Rule :=
  let id := Field.required draft.fields "id" Field.text
  let severity := Field.required draft.fields "severity" Field.severity
  let title := Field.required draft.fields "title" Field.text
  let description := Field.required draft.fields "description" Field.text
  let trigger := draft.checkedTrigger
  match id, severity, title, description, trigger with
  | .ok id, .ok severity, .ok title, .ok description, .ok trigger =>
    .ok { id, severity, title, description, trigger }
  | _, _, _, _, _ =>
    .error (id.errors ++ severity.errors ++ title.errors ++ description.errors ++ trigger.errors)

end WorkerAdvisor
