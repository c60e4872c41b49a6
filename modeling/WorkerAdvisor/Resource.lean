import WorkerAdvisor.Concept.Entry
import WorkerAdvisor.Rule
import WorkerAdvisor.Yaml.Listing

/-!
The resources that can be read: the catalog of rules and the knowledge base, as YAML.

A resource is found by its address. The scheme of an address has no letter case, and control characters and
spaces around it do not count.
-/

set_option autoImplicit false

namespace WorkerAdvisor

/-- What can be read. -/
inductive Resource
  | rules
  | concepts
  deriving DecidableEq, Repr

namespace Resource

open Yaml

def all : List Resource := [rules, concepts]

def name : Resource → String
  | rules => "rule_catalog"
  | concepts => "workers_concepts"

/-- The address of a resource. -/
def address : Resource → String
  | rules => "edgelint://rules"
  | concepts => "edgelint://concepts"

/-- The kind of content that every resource has. -/
def mediaType : String := "text/plain"

/-- A character that does not count at the ends of an address. -/
def isAddressMargin (c : Char) : Bool := c.toNat ≤ 0x20

/-- An address in its normal form: nothing around it, no tab and no line break in it, and a scheme in lower
case. -/
def normalizeAddress (written : String) : String :=
  let whole := (Text.dropEndWhile isAddressMargin (written.toList.dropWhile isAddressMargin)).filter fun c ↦
    !(c == '\t' || c == '\n' || c == '\r')
  let (scheme, rest) := whole.span (· != ':')
  String.ofList (scheme.map Char.toLower ++ rest)

def ofAddress? (written : String) : Option Resource :=
  all.find? fun resource ↦ resource.address == normalizeAddress written

/-- A rule as it is described to a caller. -/
def ruleRecord (rule : Rule) : Record :=
  [("id", .text rule.id), ("severity", .text rule.severity.word), ("title", .text rule.title),
    ("description", .text rule.description)]

/-- An entry of the knowledge base with all its fields. -/
def entryRecord (entry : Concept.Entry) : Record :=
  [("id", .text entry.id), ("title", .text entry.title), ("aliases", .texts entry.aliases),
    ("summary", .text entry.summary), ("recommendations", .texts entry.recommendations),
    ("related_rules", .texts entry.relatedRules)]

/-- The catalog of rules. -/
def ruleListing (catalog : List Rule) : Listing := ⟨"rules", catalog.map ruleRecord⟩

/-- The knowledge base. -/
def conceptListing (entries : List Concept.Entry) : Listing := ⟨"concepts", entries.map entryRecord⟩

end Resource

end WorkerAdvisor
