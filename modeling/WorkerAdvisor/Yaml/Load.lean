import WorkerAdvisor.Yaml.Document
import WorkerAdvisor.Yaml.Token.Scan

/-!
Reading a YAML document: from characters over glyphs, tokens and nodes to a value, or to the fault that comes
first.
-/

set_option autoImplicit false

namespace WorkerAdvisor.Yaml

def dropByteOrderMark : List Char → List Char
  | c :: rest => if c = byteOrderMark then rest else c :: rest
  | [] => []

/-- The document that a text holds. A text without a document holds nothing. -/
def load (text : List Char) : Except Fault Document := do
  if text.all isAllowed then
    match ← Node.ofTokens (Token.ofGlyphs (Glyph.ofText (dropByteOrderMark (unifyLineEnds text)))) with
    | none => return Document.empty
    | some node =>
      Document.check node
      return Document.ofNode node
  else .error .malformed

end WorkerAdvisor.Yaml
