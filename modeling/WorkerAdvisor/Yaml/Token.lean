import WorkerAdvisor.Yaml.Fault

/-!
Tokens of a YAML text.

Block collections are bracketed by tokens that stand for indentation, so a list of tokens has the structure
of the document without any columns. A text that cannot be read to its end has a `broken` token as its last.
-/

set_option autoImplicit false

namespace WorkerAdvisor.Yaml

inductive Directive
  /-- The version of the format. -/
  | version (major minor : Nat)
  /-- A handle, and the start of the tags that it abbreviates. -/
  | tagHandle (handle start : String)
  /-- An instruction that has no effect. -/
  | reserved
  deriving DecidableEq, Repr

/-- The smallest unit of a YAML text. -/
inductive Token
  | directive (instruction : Directive)
  | documentStart
  | documentEnd
  | blockSequenceStart
  | blockMappingStart
  | blockEnd
  | flowSequenceStart
  | flowSequenceEnd
  | flowMappingStart
  | flowMappingEnd
  | blockEntry
  | flowEntry
  | key
  | value
  | aliasFor (name : String)
  | anchor (name : String)
  /-- A tag. Without a handle it is written out in full. -/
  | tag (handle : Option String) (suffix : String)
  /-- A scalar, plain or in some other style. -/
  | scalar (content : String) (plain : Bool)
  /-- The place from which the text cannot be read, and why. -/
  | broken (fault : Fault)
  deriving DecidableEq, Repr

end WorkerAdvisor.Yaml
