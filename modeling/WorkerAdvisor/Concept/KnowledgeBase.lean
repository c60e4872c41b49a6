import WorkerAdvisor.Concept.Entry
import WorkerAdvisor.Yaml.Load

/-!
Loading a knowledge base from its file.

A file that cannot be used is reported with one of four reasons. A file that cannot be read at all, because it
is not UTF-8 or a scalar in it denotes nothing, is a failure of another kind, which no caller reports. The bytes
are decoded as a whole before anything in them is read.
-/

set_option autoImplicit false

namespace WorkerAdvisor.Concept

def fileName : String := "workers-concepts.yaml"

/-- The content of the file, if there is one. -/
abbrev File := Option ByteArray

/-- Why a knowledge base cannot be used. -/
inductive Unusable
  | missing
  | malformed
  /-- No list of concepts. -/
  | noConcepts
  /-- The first entry that is not valid has these faults. -/
  | invalidEntry (errors : List FieldError)
  deriving DecidableEq, Repr

def Unusable.message (path : String) : Unusable → String
  | missing => "Concept knowledge base not found: " ++ path
  | malformed => "Malformed concept knowledge base " ++ path
  | noConcepts => "No concepts defined in " ++ path
  | invalidEntry _ => "Invalid concept definition in " ++ path

/-- Why a knowledge base cannot be loaded. -/
inductive LoadError
  | unusable (reason : Unusable)
  /-- The file is not UTF-8. -/
  | undecodable
  /-- A scalar denotes nothing. -/
  | noValue (fault : Yaml.Fault)
  deriving DecidableEq, Repr

namespace KnowledgeBase

/-- The entries of a list, in order, or the faults of the first item that is no entry. -/
def entriesOf (resolve : Value → Value) : List Value → Except LoadError (List Entry)
  | [] => .ok []
  | item :: items =>
    match Entry.ofValue resolve item with
    | .error errors => .error (.unusable (.invalidEntry errors))
    | .ok entry => (entriesOf resolve items).map (entry :: ·)

/-- The entries of a document: a mapping with a list of them under `concepts`. -/
def ofDocument (document : Yaml.Document) : Except LoadError (List Entry) :=
  match document.root with
  | .mapping fields =>
    match (Value.field? fields "concepts").map document.resolve with
    | some (.list items) => entriesOf document.resolve items
    | _ => .error (.unusable .noConcepts)
  | _ => .error (.unusable .noConcepts)

def ofText (text : String) : Except LoadError (List Entry) :=
  match Yaml.load text.toList with
  | .error .malformed => .error (.unusable .malformed)
  | .error fault => .error (.noValue fault)
  | .ok document => ofDocument document

/-- The entries that a file holds. -/
def load (file : File) : Except LoadError (List Entry) :=
  match file with
  | none => .error (.unusable .missing)
  | some bytes =>
    match String.fromUTF8? bytes with
    | none => .error .undecodable
    | some text => ofText text

/-- A file that holds the UTF-8 encoding of a text is read as that text. -/
theorem load_toUTF8 (text : String) : load (some text.toUTF8) = ofText text := by
  have hvalid : text.toUTF8.IsValidUTF8 := text.isValidUTF8
  simp only [load, String.fromUTF8?, dif_pos hvalid]
  rfl

end KnowledgeBase

end WorkerAdvisor.Concept
