import WorkerAdvisor.Field
import WorkerAdvisor.Text.Lowercase

/-!
Entries of the knowledge base: what is known about one concept.

`Entry.ofValue` checks the fields of an entry that comes in as data, all of them, in the order in which they
are declared. Fields that no entry has are ignored.
-/

set_option autoImplicit false

namespace WorkerAdvisor.Concept

/-- What is known about one concept. -/
structure Entry where
  id : String
  title : String
  aliases : List String
  summary : String
  recommendations : List String
  relatedRules : List String
  deriving DecidableEq, Repr

namespace Entry

/-- The names of a concept, in lower case: its id, its title and its aliases. -/
def names (entry : Entry) : List String :=
  (entry.id :: entry.title :: entry.aliases).map Text.lower

/-- The entry that the fields of a mapping describe. `resolve` gives the collection that a field holds if it
holds one that encloses it. -/
def ofFields (resolve : Value → Value) (fields : List (String × Value)) : Checked Entry :=
  let listField := fun place value ↦ Field.texts place (resolve value)
  let id := Field.required fields "id" Field.text
  let title := Field.required fields "title" Field.text
  let aliases := Field.optional fields "aliases" [] listField
  let summary := Field.required fields "summary" Field.text
  let recommendations := Field.optional fields "recommendations" [] listField
  let relatedRules := Field.optional fields "related_rules" [] listField
  match id, title, aliases, summary, recommendations, relatedRules with
  | .ok id, .ok title, .ok aliases, .ok summary, .ok recommendations, .ok relatedRules =>
    .ok { id, title, aliases, summary, recommendations, relatedRules }
  | _, _, _, _, _, _ =>
    .error (id.errors ++ title.errors ++ aliases.errors ++ summary.errors ++ recommendations.errors ++
      relatedRules.errors)

def ofValue (resolve : Value → Value) (value : Value) : Checked Entry :=
  match resolve value with
  | .mapping fields => ofFields resolve fields
  | _ => .error [⟨[], .notRecord⟩]

end Entry

end WorkerAdvisor.Concept
