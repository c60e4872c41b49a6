import WorkerAdvisor.Concept.Entry
import WorkerAdvisor.Pattern
import WorkerAdvisor.Text.Occurs

/-!
Looking a concept up by what a person calls it.

A query is compared in lower case and without white space around it. An entry of which it is a name comes
first. Otherwise the entry with the longest name that partly matches the query is taken: a name that stands
as a word in the query, or one that holds the query, if the query has at least three characters. Of names of
equal length the first counts.
-/

set_option autoImplicit false

namespace WorkerAdvisor.Concept

/-- The least number of characters of a query that may be a part of a name. -/
def minPartialLength : Nat := 3

/-- A name that stands in a text with no word character on either side. -/
def standingAlone (name : List Char) : Pattern :=
  .sequence [.notAfterWord, .literalChars name, .notBeforeWord]

/-- Whether a query and a name partly match. -/
def partlyMatches (query name : String) : Bool :=
  (minPartialLength ≤ query.length && Text.occursIn query.toList name.toList) ||
    (standingAlone name.toList).occursIn query.toList

/-- The form of a query in which it is compared with names. -/
def normalize (query : String) : String :=
  Text.lower (String.ofList (Text.trimBlank query.toList))

/-- A choice of an entry, with the length of the name that led to it. -/
abbrev Candidate := Option (Entry × Nat)

/-- The better of a choice and an entry with one of its names; the choice stays if the name is no longer. -/
def Candidate.consider (query : String) (entry : Entry) (best : Candidate) (name : String) : Candidate :=
  let bestLength := match best with
    | none => 0
    | some (_, length) => length
  if partlyMatches query name ∧ bestLength < name.length then some (entry, name.length) else best

/-- The best choice among entries by partial matches. -/
def bestPartial (query : String) (entries : List Entry) : Candidate :=
  entries.foldl (fun best entry ↦ entry.names.foldl (Candidate.consider query entry) best) none

/-- The entry for a normalized query. -/
def find (entries : List Entry) (query : String) : Option Entry :=
  match entries.find? fun entry ↦ entry.names.contains query with
  | some entry => some entry
  | none => (bestPartial query entries).map (·.1)

end WorkerAdvisor.Concept
