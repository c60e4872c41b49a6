import WorkerAdvisor.Yaml.Token
import WorkerAdvisor.Yaml.Token.Block
import WorkerAdvisor.Yaml.Token.Name
import WorkerAdvisor.Yaml.Token.Plain
import WorkerAdvisor.Yaml.Token.Quoted

/-!
From the glyphs of a YAML text to its tokens.

Indentation becomes tokens: a deeper column opens a block collection, a shallower one closes those that are
deeper. A mapping key without a mark of its own is known only by the colon after it, so every token that
could begin such a key is remembered, and the tokens for the key are put in before it once its colon is met.
The colon must follow on the same line, within 1024 characters. A remembered token that stands where only a
key can stand must turn out to be one.
-/

set_option autoImplicit false

namespace WorkerAdvisor.Yaml

/-- A token that may turn out to begin a key. -/
structure KeyCandidate where
  /-- The number of tokens before it. -/
  preceding : Nat
  /-- Whether nothing but a key can stand there. -/
  required : Bool
  glyph : Glyph

/-- The state of reading: the tokens so far, latest first, and what is needed to go on. -/
structure Reading where
  rest : List Glyph
  tokens : List Token
  /-- The columns of the open block collections, innermost first. -/
  indents : List Nat
  /-- Whether a key may begin here. -/
  keyAllowed : Bool
  /-- The token inside the innermost brackets that may begin a key. -/
  candidate : Option KeyCandidate
  /-- The same for each pair of brackets around it, innermost first. -/
  outer : List (Option KeyCandidate)

namespace Reading

def start (glyphs : List Glyph) : Reading :=
  { rest := glyphs, tokens := [], indents := [], keyAllowed := true, candidate := none, outer := [] }

def inFlow (r : Reading) : Bool := !r.outer.isEmpty

/-- The least column that is deeper than every open block collection. -/
def innerColumn (r : Reading) : Nat :=
  match r.indents with
  | [] => 0
  | column :: _ => column + 1

/-- Skips spaces, comments and line ends. The result tells whether a line end was passed. -/
def skipGap : (inComment : Bool) → List Glyph → Bool × List Glyph
  | _, [] => (false, [])
  | inComment, glyph :: rest =>
    if isBreak glyph.char then (true, (skipGap false rest).2)
    else if inComment then skipGap true rest
    else if glyph.char = ' ' then skipGap false rest
    else if glyph.char = '#' then skipGap true rest
    else (false, glyph :: rest)

/-- Goes to the next token. After a line end outside brackets a key may begin. -/
def toToken (r : Reading) : Reading :=
  let (passedBreak, rest) := skipGap false r.rest
  { r with rest, keyAllowed := r.keyAllowed || (passedBreak && !r.inFlow) }

/-- The most characters between the start of a key and its colon. -/
def keyLimit : Nat := 1024

/-- A candidate as it is seen from a later place: it is given up on another line or too far away. -/
def KeyCandidate.at (glyph : Glyph) (candidate : Option KeyCandidate) : Except Fault (Option KeyCandidate) :=
  match candidate with
  | none => .ok none
  | some key =>
    if key.glyph.line ≠ glyph.line ∨ keyLimit < glyph.offset - key.glyph.offset then
      if key.required then .error .malformed else .ok none
    else .ok (some key)

/-- Gives up the candidates that are too far away from a place. -/
def dropStale (r : Reading) (glyph : Glyph) : Except Fault Reading := do
  let candidate ← KeyCandidate.at glyph r.candidate
  let outer ← r.outer.mapM (KeyCandidate.at glyph)
  return { r with candidate, outer }

/-- Closes the block collections that are deeper than a column. Brackets suspend indentation. -/
def closeTo (r : Reading) (column : Nat) : Reading :=
  if r.inFlow then r
  else
    { r with
      indents := r.indents.dropWhile (column < ·)
      tokens := (r.indents.takeWhile (column < ·)).map (fun _ ↦ Token.blockEnd) ++ r.tokens }

def closeAll (r : Reading) : Reading :=
  if r.inFlow then r
  else { r with indents := [], tokens := r.indents.map (fun _ ↦ Token.blockEnd) ++ r.tokens }

def dropCandidate (r : Reading) : Except Fault Reading :=
  match r.candidate with
  | some key => if key.required then .error .malformed else .ok { r with candidate := none }
  | none => .ok r

/-- Remembers that the next token may begin a key, if one may begin here. -/
def saveCandidate (r : Reading) (glyph : Glyph) : Except Fault Reading :=
  if r.keyAllowed then do
    let r ← r.dropCandidate
    return { r with
      candidate := some ⟨r.tokens.length, !r.inFlow && r.innerColumn == glyph.column + 1, glyph⟩ }
  else .ok r

/-- Opens a block collection at a column that is deep enough. -/
def openAt (r : Reading) (column : Nat) (opening : Token) : Reading :=
  if r.innerColumn ≤ column then { r with indents := column :: r.indents, tokens := opening :: r.tokens } else r

/-- Puts the tokens for a key before the token that began it. -/
def insertKey (r : Reading) (key : KeyCandidate) : Reading :=
  let later := r.tokens.take (r.tokens.length - key.preceding)
  let earlier := r.tokens.drop (r.tokens.length - key.preceding)
  if !r.inFlow && r.innerColumn ≤ key.glyph.column then
    { r with
      indents := key.glyph.column :: r.indents
      tokens := later ++ Token.key :: Token.blockMappingStart :: earlier }
  else { r with tokens := later ++ Token.key :: earlier }

/-! ### One token of each kind

In what follows `glyph` is the first character of the token and `rest` what follows that character. -/

/-- The mark of a document's start or end, which takes up three characters. -/
def documentMarker (r : Reading) (token : Token) : Except Fault Reading := do
  let r ← r.closeAll.dropCandidate
  return { r with keyAllowed := false, tokens := token :: r.tokens, rest := r.rest.drop 3 }

def directive (r : Reading) (rest : List Glyph) : Except Fault Reading := do
  let r ← r.closeAll.dropCandidate
  match Name.directive? rest with
  | none => .error .malformed
  | some (instruction, left) =>
    return { r with keyAllowed := false, tokens := Token.directive instruction :: r.tokens, rest := left }

def openFlow (r : Reading) (glyph : Glyph) (rest : List Glyph) (token : Token) : Except Fault Reading := do
  let r ← r.saveCandidate glyph
  return { r with
    rest, tokens := token :: r.tokens, keyAllowed := true, candidate := none, outer := r.candidate :: r.outer }

def closeFlow (r : Reading) (rest : List Glyph) (token : Token) : Except Fault Reading := do
  let r ← r.dropCandidate
  match r.outer with
  | [] => .error .malformed
  | candidate :: outer =>
    return { r with rest, tokens := token :: r.tokens, keyAllowed := false, candidate, outer }

def flowEntry (r : Reading) (rest : List Glyph) : Except Fault Reading := do
  let r ← r.dropCandidate
  return { r with rest, tokens := Token.flowEntry :: r.tokens, keyAllowed := true }

def blockEntry (r : Reading) (glyph : Glyph) (rest : List Glyph) : Except Fault Reading := do
  if !r.inFlow && !r.keyAllowed then .error .malformed
  else
    let r := if r.inFlow then r else r.openAt glyph.column .blockSequenceStart
    let r ← r.dropCandidate
    return { r with rest, tokens := Token.blockEntry :: r.tokens, keyAllowed := true }

def explicitKey (r : Reading) (glyph : Glyph) (rest : List Glyph) : Except Fault Reading := do
  if !r.inFlow && !r.keyAllowed then .error .malformed
  else
    let r := if r.inFlow then r else r.openAt glyph.column .blockMappingStart
    let r ← r.dropCandidate
    return { r with rest, tokens := Token.key :: r.tokens, keyAllowed := !r.inFlow }

/-- The colon before a value. It makes a key of the candidate, if there is one. -/
def value (r : Reading) (glyph : Glyph) (rest : List Glyph) : Except Fault Reading :=
  match r.candidate with
  | some key =>
    let r := { r with candidate := none }.insertKey key
    .ok { r with rest, tokens := Token.value :: r.tokens, keyAllowed := false }
  | none =>
    if !r.inFlow && !r.keyAllowed then .error .malformed
    else
      let r := if r.inFlow then r else r.openAt glyph.column .blockMappingStart
      .ok { r with rest, tokens := Token.value :: r.tokens, keyAllowed := !r.inFlow }

/-- A token that may begin a key: an anchor, an alias, a tag or a scalar in one line. -/
def keyToken (r : Reading) (glyph : Glyph) (rest : List Glyph) (token : Token) (keyAllowed : Bool) :
    Except Fault Reading := do
  let r ← r.saveCandidate glyph
  return { r with rest, tokens := token :: r.tokens, keyAllowed }

def blockScalar (r : Reading) (rest : List Glyph) (folded : Bool) : Except Fault Reading := do
  let r ← r.dropCandidate
  match Block.read folded r.innerColumn rest with
  | none => .error .malformed
  | some (content, left) =>
    return { r with
      rest := left, tokens := Token.scalar (String.ofList content) false :: r.tokens, keyAllowed := true }

def quotedScalar (r : Reading) (glyph : Glyph) (scalar : Except Fault (List Char × List Glyph)) :
    Except Fault Reading := do
  let r ← r.saveCandidate glyph
  let (content, left) ← scalar
  return { r with
    rest := left, tokens := Token.scalar (String.ofList content) false :: r.tokens, keyAllowed := false }

def plainScalar (r : Reading) (glyph : Glyph) : Except Fault Reading :=
  let (content, passedBreak, left) := Plain.read r.inFlow r.innerColumn r.rest.length [] r.rest
  r.keyToken glyph left (.scalar (String.ofList content) true) passedBreak

/-- Whether a plain scalar can begin with a character that is followed by `rest`. -/
def beginsPlain (r : Reading) (c : Char) (rest : List Glyph) : Bool :=
  !(isGap c || "-?:,[]\x7b\x7d#&*!|>'\"%@\x60".toList.contains c) ||
    (!atGap rest && (c == '-' || (!r.inFlow && (c == '?' || c == ':'))))

/-- Reads the token that begins with `glyph`. -/
def token (r : Reading) (glyph : Glyph) (rest : List Glyph) : Except Fault Reading :=
  let c := glyph.char
  if c = '%' ∧ glyph.column = 0 then r.directive rest
  else if glyph.column = 0 ∧ atMarker '-' (glyph :: rest) then r.documentMarker .documentStart
  else if glyph.column = 0 ∧ atMarker '.' (glyph :: rest) then r.documentMarker .documentEnd
  else if c = '[' then r.openFlow glyph rest .flowSequenceStart
  else if c = '\x7b' then r.openFlow glyph rest .flowMappingStart
  else if c = ']' then r.closeFlow rest .flowSequenceEnd
  else if c = '\x7d' then r.closeFlow rest .flowMappingEnd
  else if c = ',' then r.flowEntry rest
  else if c = '-' ∧ atGap rest then r.blockEntry glyph rest
  else if c = '?' ∧ (r.inFlow ∨ atGap rest) then r.explicitKey glyph rest
  else if c = ':' ∧ (r.inFlow ∨ atGap rest) then r.value glyph rest
  else if c = '*' then
    match Name.anchor? rest with
    | some (name, left) => r.keyToken glyph left (.aliasFor name) false
    | none => .error .malformed
  else if c = '&' then
    match Name.anchor? rest with
    | some (name, left) => r.keyToken glyph left (.anchor name) false
    | none => .error .malformed
  else if c = '!' then
    match Name.tag? (glyph :: rest) with
    | some (handle, suffix, left) => r.keyToken glyph left (.tag handle suffix) false
    | none => .error .malformed
  else if c = '|' ∧ !r.inFlow then r.blockScalar rest false
  else if c = '>' ∧ !r.inFlow then r.blockScalar rest true
  else if c = '\'' then r.quotedScalar glyph (Quoted.readSingle (rest.length + 1) rest)
  else if c = '"' then r.quotedScalar glyph (Quoted.readDouble (rest.length + 1) rest)
  else if r.beginsPlain c rest then r.plainScalar glyph
  else .error .malformed

/-- Reads up to the end of the text, one token in each step. -/
def run : (steps : Nat) → Reading → Except (Reading × Fault) Reading
  | 0, r => .ok r
  | steps + 1, r =>
    let r := r.toToken
    match r.rest with
    | [] =>
      match r.closeAll.dropCandidate with
      | .ok done => .ok done
      | .error fault => .error (r, fault)
    | glyph :: rest =>
      match r.dropStale glyph with
      | .error fault => .error (r, fault)
      | .ok r =>
        match (r.closeTo glyph.column).token glyph rest with
        | .error fault => .error (r, fault)
        | .ok next => run steps next

end Reading

/-- The number of tokens that no key can be put before any more. -/
def Reading.settled (r : Reading) : Nat :=
  ((r.candidate :: r.outer).filterMap id).foldl (fun count key ↦ min count key.preceding) r.tokens.length

/-- The tokens of a text. If the text cannot be read to its end, the last token tells why, and stands after
those that no key can be put before any more. -/
def Token.ofGlyphs (glyphs : List Glyph) : List Token :=
  match (Reading.start glyphs).run (glyphs.length + 1) with
  | .ok r => r.tokens.reverse
  | .error (r, fault) => r.tokens.reverse.take r.settled ++ [Token.broken fault]

end WorkerAdvisor.Yaml
