import WorkerAdvisor.Text.Quoted
import WorkerAdvisor.Text.Split
import WorkerAdvisor.Text.Utf8

/-!
Queries: the fields after the question mark of a URL.

Fields are separated by `&`, and a field without `=` has an empty value. A plus sign is a space, and `%` with
two hexadecimal digits is a byte; other percent signs stand for themselves. The bytes are read as UTF-8.
-/

set_option autoImplicit false

namespace WorkerAdvisor.Access.Query

/-- Decodes percent escapes, where `pending` holds the bytes that precede, the last one first. A character
beyond ASCII stands for itself and ends a run of bytes. -/
def unescapeFrom : (pending : List Nat) → List Char → List Char
  | pending, [] => Text.decodeLenient pending.reverse
  | pending, c :: rest =>
    if 128 ≤ c.toNat then Text.decodeLenient pending.reverse ++ c :: unescapeFrom [] rest
    else if c = '%' then
      match rest with
      | high :: low :: others =>
        match Text.hexValue? high, Text.hexValue? low with
        | some h, some l => unescapeFrom ((16 * h + l) :: pending) others
        | _, _ => unescapeFrom (c.toNat :: pending) (high :: low :: others)
      | others => unescapeFrom (c.toNat :: pending) others
    else unescapeFrom (c.toNat :: pending) rest

/-- The text that a name or a value of a query stands for. -/
def unescape (cs : List Char) : String :=
  String.ofList (unescapeFrom [] (cs.map fun c ↦ if c = '+' then ' ' else c))

def field (cs : List Char) : String × String :=
  let (name, value) := Text.breakAt '=' cs
  (unescape name, unescape value)

def fields (query : String) : List (String × String) :=
  ((Text.splitOn '&' (Text.bytesAsChars query)).filter (!·.isEmpty)).map field

/-- The value of the last field with a name. -/
def last? (name : String) (query : String) : Option String := (fields query).reverse.lookup name

end WorkerAdvisor.Access.Query
