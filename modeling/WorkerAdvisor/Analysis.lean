import WorkerAdvisor.Catalog
import WorkerAdvisor.Finding
import WorkerAdvisor.Log

/-!
Analysis of a source: the findings of a catalog, in its order, and the log of the run.
-/

set_option autoImplicit false

namespace WorkerAdvisor

/-- A source that is no text, with the shape that it has instead. -/
structure InvalidSource where
  typeName : String

namespace InvalidSource

def message (invalid : InvalidSource) : String :=
  "Source code must be a string, got " ++ invalid.typeName

end InvalidSource

namespace Analysis

/-- The text of a source that is passed as an argument. -/
def source : Argument → Except InvalidSource String
  | .text code => .ok code
  | other => .error ⟨other.typeName⟩

def findings (catalog : List Rule) (code : String) : List Finding :=
  (catalog.filter fun rule ↦ rule.trigger code).map Finding.ofRule

/-- The start of the log: the file's name, if it has one, and the length of the source. -/
def openingRecord (code : String) (filename : Option String) : LogRecord :=
  let size := " (" ++ toString code.length ++ " chars)"
  match filename with
  | none | some "" => ⟨.info, "Analyzing code" ++ size⟩
  | some name => ⟨.info, "Analyzing code from " ++ name ++ size⟩

/-- The log of a run. -/
def log (catalog : List Rule) (code : String) (filename : Option String) : List LogRecord :=
  [openingRecord code filename,
    ⟨.debug, "Rules matched: " ++ Text.quotedList ((findings catalog code).map (·.ruleId))⟩]

end Analysis

end WorkerAdvisor
