import WorkerAdvisor.Yaml.Glyph

/-!
Plain scalars: text without quotes.

A plain scalar goes on over line ends as long as the lines are indented. Between two parts of it, spaces are
kept, a single line end becomes a space, and of several line ends the first is dropped. It ends before a
comment, before a colon that is followed by a separator, and, inside brackets, before the characters that
have a meaning there.
-/

set_option autoImplicit false

namespace WorkerAdvisor.Yaml.Plain

/-- A character that ends a plain scalar inside brackets. -/
def isFlowIndicator (c : Char) : Bool :=
  c == ',' || c == '[' || c == ']' || c == '\x7b' || c == '\x7d'

/-- Whether a plain scalar cannot go on with a character that is followed by `rest`. -/
def stopsAt (inFlow : Bool) (c : Char) (rest : List Glyph) : Bool :=
  isGap c || (c == ':' && (atGap rest || (inFlow && startsWith isFlowIndicator rest))) ||
    (inFlow && (isFlowIndicator c || c == '?'))

/-- The characters up to the place where a plain scalar must stop or pause, and what is left. -/
def part (inFlow : Bool) : List Glyph → List Char × List Glyph
  | [] => ([], [])
  | glyph :: rest =>
    if stopsAt inFlow glyph.char rest then ([], glyph :: rest)
    else (glyph.char :: (part inFlow rest).1, (part inFlow rest).2)

/-- Skips spaces and further line ends, up to the mark of a document's end or start at the start of a line.
The result has the line ends that were passed, or `none` if such a mark was met. -/
def breaks : (atLineStart : Bool) → List Glyph → Option (List Char) × List Glyph
  | _, [] => (some [], [])
  | atLineStart, glyph :: rest =>
    if atLineStart && atDocumentMarker (glyph :: rest) then (none, glyph :: rest)
    else if glyph.char = ' ' then breaks false rest
    else if isBreak glyph.char then
      ((breaks true rest).1.map (breakMeaning glyph.char :: ·), (breaks true rest).2)
    else (some [], glyph :: rest)

/-- What stands between two parts of a plain scalar: its meaning (empty if the scalar ends here), whether a
line end was passed, and what is left. -/
def between (rest : List Glyph) : List Char × Bool × List Glyph :=
  let spaces := charsWhile (· == ' ') rest
  match skipWhile (· == ' ') rest with
  | [] => (spaces, false, [])
  | glyph :: rest =>
    if isBreak glyph.char then
      match breaks true rest with
      | (none, rest) => ([], true, rest)
      | (some others, rest) => (foldBreaks glyph.char others, true, rest)
    else (spaces, false, glyph :: rest)

/-- Whether a plain scalar ends here although it could go on: at a comment, or, outside brackets, on a line
that is indented less than `indent`. -/
def endsHere (inFlow : Bool) (indent : Nat) : List Glyph → Bool
  | [] => true
  | glyph :: _ => glyph.char == '#' || (!inFlow && glyph.column < indent)

/-- The text of a plain scalar, whether a line end was passed after its last part, and what is left.
`steps` bounds the number of parts, and `pending` is what stands before the next part. -/
def read (inFlow : Bool) (indent : Nat) :
    (steps : Nat) → (pending : List Char) → List Glyph → List Char × Bool × List Glyph
  | 0, _, rest => ([], false, rest)
  | steps + 1, pending, rest =>
    match part inFlow rest with
    | ([], rest) => ([], false, rest)
    | (chars, rest) =>
      match between rest with
      | (gap, passedBreak, rest) =>
        if gap.isEmpty || endsHere inFlow indent rest then (pending ++ chars, passedBreak, rest)
        else
          match read inFlow indent steps gap rest with
          | ([], _, rest) => (pending ++ chars, passedBreak, rest)
          | (more, passedLater, rest) => (pending ++ chars ++ more, passedLater, rest)

end WorkerAdvisor.Yaml.Plain
