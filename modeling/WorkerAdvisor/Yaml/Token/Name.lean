import WorkerAdvisor.Yaml.Glyph
import WorkerAdvisor.Yaml.Token
import WorkerAdvisor.Yaml.Token.Block
import WorkerAdvisor.Yaml.Token.Quoted

/-!
Names in a YAML text: anchors, aliases, tags and directives.

Anchors and handles are made of ASCII letters, digits, hyphens and underscores. A tag may hold the characters of
a URI, and escapes that give the UTF-8 encoding of others. The numbers of a version may have any length.
-/

set_option autoImplicit false

namespace WorkerAdvisor.Yaml.Name

/-- A character of an anchor, a handle or the name of a directive. -/
def isNameChar (c : Char) : Bool := c.isAlphanum || c == '-' || c == '_'

/-- A character of a tag, other than one that begins an escape. -/
def isTagChar (c : Char) : Bool :=
  isNameChar c || ";/?:@&=+$,.!~*'()[]".toList.contains c

/-- A character that may follow an anchor or an alias directly, besides a separator. -/
def mayFollowAnchor (c : Char) : Bool := isGap c || "?:,]\x7d%@\x60".toList.contains c

/-- The name of an anchor or alias and what is left, given what follows the indicator. -/
def anchor? (rest : List Glyph) : Option (String × List Glyph) :=
  let name := charsWhile isNameChar rest
  let left := skipWhile isNameChar rest
  if name.isEmpty || !endsOr mayFollowAnchor left then none else some (String.ofList name, left)

/-- A handle and what is left: an exclamation mark, alone or around a name. -/
def handle? (rest : List Glyph) : Option (String × List Glyph) :=
  match rest with
  | [] => none
  | first :: others =>
    if first.char ≠ '!' then none
    else if startsWith (· == ' ') others then some ("!", others)
    else
      let name := charsWhile isNameChar others
      match skipWhile isNameChar others with
      | [] => none
      | last :: left =>
        if last.char = '!' then some (String.ofList ('!' :: name ++ ['!']), left) else none

/-- The bytes that escapes in a row give, and what is left. -/
def escapedBytes? : (steps : Nat) → List Glyph → Option (List UInt8 × List Glyph)
  | 0, rest => some ([], rest)
  | steps + 1, rest =>
    match rest with
    | [] => some ([], [])
    | first :: others =>
      if first.char = '%' then
        match Quoted.hexNumber? 2 0 others with
        | none => none
        | some (n, left) => (escapedBytes? steps left).map fun (bytes, left) ↦ (n.toUInt8 :: bytes, left)
      else some ([], rest)

def tagChars? : (steps : Nat) → List Glyph → Option (List Char × List Glyph)
  | 0, rest => some ([], rest)
  | steps + 1, rest =>
    match rest with
    | [] => some ([], [])
    | first :: others =>
      if first.char = '%' then
        match escapedBytes? rest.length rest with
        | none => none
        | some (bytes, left) =>
          match String.fromUTF8? ⟨bytes.toArray⟩ with
          | none => none
          | some decoded =>
            (tagChars? steps left).map fun (chars, left) ↦ (decoded.toList ++ chars, left)
      else if isTagChar first.char then
        (tagChars? steps others).map fun (chars, left) ↦ (first.char :: chars, left)
      else some ([], rest)

def tagText? (rest : List Glyph) : Option (String × List Glyph) :=
  match tagChars? rest.length rest with
  | none => none
  | some (chars, left) => if chars.isEmpty then none else some (String.ofList chars, left)

/-- Whether an exclamation mark stands before the next space or line end. -/
def hasHandle (rest : List Glyph) : Bool :=
  (charsWhile (fun c ↦ c != ' ' && !isBreak c) rest).contains '!'

/-- The parts of a tag and what is left, given the tag with its first exclamation mark. -/
def tag? (rest : List Glyph) : Option (Option String × String × List Glyph) :=
  let parts := match rest.drop 1 with
    | [] => some (none, "!", [])
    | second :: others =>
      if second.char = '<' then
        match tagText? others with
        | some (uri, last :: left) => if last.char = '>' then some (none, uri, left) else none
        | _ => none
      else if isGap second.char then some (none, "!", second :: others)
      else if hasHandle (second :: others) then
        match handle? rest with
        | none => none
        | some (handle, left) => (tagText? left).map fun (suffix, left) ↦ (some handle, suffix, left)
      else (tagText? (second :: others)).map fun (suffix, left) ↦ (some "!", suffix, left)
  match parts with
  | some (handle, suffix, left) => if atSpaceOrLineEnd left then some (handle, suffix, left) else none
  | none => none

def number? (rest : List Glyph) : Option (Nat × List Glyph) :=
  let digits := charsWhile Char.isDigit rest
  if digits.isEmpty then none
  else some (digits.foldl (fun n c ↦ 10 * n + (c.toNat - 48)) 0, skipWhile Char.isDigit rest)

def version? (rest : List Glyph) : Option (Directive × List Glyph) :=
  match number? (skipWhile (· == ' ') rest) with
  | some (major, point :: others) =>
    if point.char = '.' then
      match number? others with
      | some (minor, left) => if atSpaceOrLineEnd left then some (.version major minor, left) else none
      | none => none
    else none
  | _ => none

/-- The handle and the start of tags after the name of a tag directive, and what is left. -/
def tagHandle? (rest : List Glyph) : Option (Directive × List Glyph) :=
  match handle? (skipWhile (· == ' ') rest) with
  | some (handle, left) =>
    if startsWith (· == ' ') left then
      match tagText? (skipWhile (· == ' ') left) with
      | some (start, left) => if atSpaceOrLineEnd left then some (.tagHandle handle start, left) else none
      | none => none
    else none
  | none => none

/-- A directive and what is left after its line, given what follows the percent sign. -/
def directive? (rest : List Glyph) : Option (Directive × List Glyph) :=
  let name := charsWhile isNameChar rest
  let afterName := skipWhile isNameChar rest
  if name.isEmpty || !atSpaceOrLineEnd afterName then none
  else
    let parsed :=
      if name = ['Y', 'A', 'M', 'L'] then version? afterName
      else if name = ['T', 'A', 'G'] then tagHandle? afterName
      else some (.reserved, skipWhile (fun c ↦ !isBreak c) afterName)
    match parsed with
    | none => none
    | some (instruction, left) => (Block.lineRest? left).map fun left ↦ (instruction, left)

end WorkerAdvisor.Yaml.Name
