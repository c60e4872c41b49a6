import WorkerAdvisor.Value
import WorkerAdvisor.Yaml.ScalarStyle

/-!
Listings: records under one name, written as a YAML document.

Each record is an item of a block sequence that is not indented under its name, each field stands on lines of
its own, and an empty list is written in brackets.
-/

set_option autoImplicit false

namespace WorkerAdvisor.Yaml

inductive FieldValue
  | text (content : String)
  | texts (contents : List String)
  deriving DecidableEq, Repr

/-- A record: its fields, in order. -/
abbrev Record := List (String × FieldValue)

/-- Records under a name. -/
structure Listing where
  name : String
  records : List Record
  deriving DecidableEq, Repr

namespace Listing

def emptyList : List Char := " []\n".toList

/-- A scalar after a mark that ends before a column, up to the end of its last line. -/
def scalarLine (column : Nat) (content : String) : List Char :=
  ' ' :: ScalarStyle.print (column + 1) content.toList ++ ['\n']

/-- A field of a record, from its name on. -/
def field (name : String) : FieldValue → List Char
  | .text content => name.toList ++ ':' :: scalarLine (3 + name.length) content
  | .texts [] => name.toList ++ ':' :: emptyList
  | .texts contents =>
    name.toList ++ ':' :: '\n' :: contents.flatMap fun content ↦ "  -".toList ++ scalarLine 3 content

/-- A record: a hyphen stands before its first field, and as much space before the others. -/
def record : Record → List Char
  | [] => "- \x7b\x7d\n".toList
  | (name, value) :: fields =>
    "- ".toList ++ field name value ++ fields.flatMap fun (name, value) ↦ "  ".toList ++ field name value

/-- The text of a listing. -/
def print (listing : Listing) : String :=
  String.ofList (listing.name.toList ++ ':' ::
    (if listing.records.isEmpty then emptyList else '\n' :: listing.records.flatMap record))

def fieldValue : FieldValue → Value
  | .text content => .text content
  | .texts contents => .list (contents.map .text)

/-- The value of a listing: what its text says. -/
def value (listing : Listing) : Value :=
  .mapping [(listing.name,
    .list (listing.records.map fun fields ↦ .mapping (fields.map fun (name, value) ↦ (name, fieldValue value))))]

end Listing

end WorkerAdvisor.Yaml
