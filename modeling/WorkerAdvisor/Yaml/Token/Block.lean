import WorkerAdvisor.Yaml.Glyph

/-!
Block scalars: indented lines after a bar or an angle bracket.

The header may give the indentation and say what becomes of the line ends after the last line: one is kept,
none, or all. Without it the first line that is not empty sets the indentation. In the folded style a single
line end between two lines that do not start with white space becomes a space, and of several the first is
dropped.
-/

set_option autoImplicit false

namespace WorkerAdvisor.Yaml.Block

/-- What becomes of the line ends after the last line. -/
inductive Chomping
  | clip
  | strip
  | keep
  deriving DecidableEq, Repr

structure Header where
  chomping : Chomping
  /-- The number of columns by which the lines are indented further than what surrounds them. -/
  increment : Option Nat

def chomping? (c : Char) : Option Chomping :=
  if c = '+' then some .keep else if c = '-' then some .strip else none

def increment? (c : Char) : Option Nat :=
  if '1' ≤ c ∧ c ≤ '9' then some (c.toNat - 48) else none

/-- The two indicators of a header, in either order, and what is left. -/
def indicators (rest : List Glyph) : Header × List Glyph :=
  match rest with
  | [] => (⟨.clip, none⟩, [])
  | first :: others =>
    match chomping? first.char, increment? first.char with
    | some chomping, _ =>
      match others with
      | second :: left =>
        match increment? second.char with
        | some increment => (⟨chomping, some increment⟩, left)
        | none => (⟨chomping, none⟩, others)
      | [] => (⟨chomping, none⟩, [])
    | none, some increment =>
      match others with
      | second :: left =>
        match chomping? second.char with
        | some chomping => (⟨chomping, some increment⟩, left)
        | none => (⟨.clip, some increment⟩, others)
      | [] => (⟨.clip, some increment⟩, [])
    | none, none => (⟨.clip, none⟩, rest)

/-- What is left after the rest of a line, which may hold spaces and a comment and nothing else, and after
the line end. -/
def lineRest? (rest : List Glyph) : Option (List Glyph) :=
  let afterSpaces := skipWhile (· == ' ') rest
  let afterComment :=
    if startsWith (· == '#') afterSpaces then skipWhile (fun c ↦ !isBreak c) afterSpaces else afterSpaces
  match afterComment with
  | [] => some []
  | glyph :: left => if isBreak glyph.char then some left else none

/-- Skips empty lines at the start: their line ends, the largest column that their spaces reach, and what is
left. -/
def leading : List Glyph → List Char × Nat × List Glyph
  | [] => ([], 0, [])
  | glyph :: rest =>
    if glyph.char = ' ' then
      ((leading rest).1, max (glyph.column + 1) (leading rest).2.1, (leading rest).2.2)
    else if isBreak glyph.char then
      (breakMeaning glyph.char :: (leading rest).1, (leading rest).2.1, (leading rest).2.2)
    else ([], 0, glyph :: rest)

/-- Skips line ends and, up to the column `indent`, spaces: the line ends and what is left. -/
def breaks (indent : Nat) : List Glyph → List Char × List Glyph
  | [] => ([], [])
  | glyph :: rest =>
    if glyph.char = ' ' ∧ glyph.column < indent then breaks indent rest
    else if isBreak glyph.char then (breakMeaning glyph.char :: (breaks indent rest).1, (breaks indent rest).2)
    else ([], glyph :: rest)

/-- Whether another line of the scalar follows. -/
def atLine (indent : Nat) : List Glyph → Bool
  | [] => false
  | glyph :: _ => glyph.column == indent

/-- What the line ends between two lines stand for: the end of the first line, and those after it. -/
def joint (folded : Bool) (first next : List Glyph) (lineEnd : List Char) (others : List Char) : List Char :=
  if folded && lineEnd == ['\n'] && !startsWith isSpaceOrTab first && !startsWith isSpaceOrTab next then
    if others.isEmpty then [' '] else others
  else lineEnd ++ others

/-- The lines of a scalar: their text, the line end of the last one, the line ends after it, and what is
left. `before` holds the line ends before the first line, and `steps` bounds the number of lines. -/
def lines (folded : Bool) (indent : Nat) :
    (steps : Nat) → (before : List Char) → List Glyph → List Char × List Char × List Char × List Glyph
  | 0, before, rest => ([], [], before, rest)
  | steps + 1, before, rest =>
    if atLine indent rest then
      let chars := charsWhile (fun c ↦ !isBreak c) rest
      let (lineEnd, afterLine) := match skipWhile (fun c ↦ !isBreak c) rest with
        | [] => ([], [])
        | glyph :: left => ([breakMeaning glyph.char], left)
      let (others, next) := breaks indent afterLine
      if atLine indent next then
        let (more, lastEnd, after, left) := lines folded indent steps (joint folded rest next lineEnd others) next
        (before ++ chars ++ more, lastEnd, after, left)
      else (before ++ chars, lineEnd, others, next)
    else ([], [], before, rest)

/-- The text of a block scalar and what is left, given what follows the indicator of its style; `none` if
the header is not well-formed. Its lines are indented by `outer` columns at least. -/
def read (folded : Bool) (outer : Nat) (rest : List Glyph) : Option (List Char × List Glyph) :=
  let (header, afterHeader) := indicators rest
  if atSpaceOrLineEnd afterHeader then
    match lineRest? afterHeader with
    | none => none
    | some body =>
      let least := max outer 1
      let (indent, before, first) := match header.increment with
        | some increment => (least + increment - 1, breaks (least + increment - 1) body)
        | none => (max least (leading body).2.1, (leading body).1, (leading body).2.2)
      let (content, lastEnd, after, left) := lines folded indent first.length before first
      match header.chomping with
      | .strip => some (content, left)
      | .clip => some (content ++ lastEnd, left)
      | .keep => some (content ++ lastEnd ++ after, left)
  else none

end WorkerAdvisor.Yaml.Block
