import WorkerAdvisor.Value

/-!
Checking the fields of a record that comes in as data of unknown shape.

A check never stops at the first failure: every field reports its own faults, and the faults stand in the
order in which the fields are declared. A fault has a place (field names and list positions) and a kind.
-/

set_option autoImplicit false

namespace WorkerAdvisor

/-- One step to the place of a fault. -/
inductive FieldStep
  | name (field : String)
  | position (index : Nat)
  deriving DecidableEq, Repr

/-- What is wrong with a field. -/
inductive FieldFault
  | missing
  | notText
  | undecodableText
  | notList
  | notRecord
  | notSeverity
  | notCallable
  | notInteger
  | unreadableInteger
  | oversizedInteger
  | fractional
  | notPath
  | unknownField
  | frozen
  deriving DecidableEq, Repr

/-- A fault and its place. -/
structure FieldError where
  place : List FieldStep
  fault : FieldFault
  deriving DecidableEq, Repr

/-- A checked value, or all that is wrong with it. -/
abbrev Checked (α : Type) := Except (List FieldError) α

def Checked.errors {α : Type} : Checked α → List FieldError
  | .ok _ => []
  | .error found => found

namespace Field

/-- Applies a check to a required field. -/
def required {α : Type} (entries : List (String × Value)) (name : String)
    (check : List FieldStep → Value → Checked α) : Checked α :=
  match Value.field? entries name with
  | none => .error [⟨[.name name], .missing⟩]
  | some value => check [.name name] value

/-- Applies a check to an optional field, which has a value of its own when it is absent. -/
def optional {α : Type} (entries : List (String × Value)) (name : String) (absent : α)
    (check : List FieldStep → Value → Checked α) : Checked α :=
  match Value.field? entries name with
  | none => .ok absent
  | some value => check [.name name] value

/-- A text. Bytes count as the text that they encode, if they encode one. -/
def text (place : List FieldStep) : Value → Checked String
  | .text content => .ok content
  | .bytes content =>
    match String.fromUTF8? ⟨content.toArray⟩ with
    | some decoded => .ok decoded
    | none => .error [⟨place, .undecodableText⟩]
  | _ => .error [⟨place, .notText⟩]

/-- The texts among list items numbered from `index`, and the faults of those that are none. -/
def textItems (place : List FieldStep) : (index : Nat) → List Value → Checked (List String)
  | _, [] => .ok []
  | index, item :: items =>
    let first := text (place ++ [.position index]) item
    let others := textItems place (index + 1) items
    match first, others with
    | .ok content, .ok contents => .ok (content :: contents)
    | _, _ => .error (first.errors ++ others.errors)

/-- A list of texts; a set counts as the list of its members. -/
def texts (place : List FieldStep) : Value → Checked (List String)
  | .list items => textItems place 0 items
  | .set members => textItems place 0 members
  | _ => .error [⟨place, .notList⟩]

/-- The fault of an attempt to change a field of a finished record: none can be changed, declared or not. -/
def assignmentError (name : String) : FieldError :=
  ⟨[.name name], .frozen⟩

end Field

end WorkerAdvisor
