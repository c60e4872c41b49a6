/-!
The characters of a YAML text with their places.

The structure of a document depends on columns, so the text is read as a list of glyphs: characters that
know their line, their column and their offset. What is left to read is then a suffix of that list.
-/

set_option autoImplicit false

namespace WorkerAdvisor.Yaml

/-- A character that ends a line. A carriage return is turned into a line feed before a text is read. -/
def isBreak (c : Char) : Bool :=
  c == '\n' || c == '\x85' || c == '\u2028' || c == '\u2029'

def isSpaceOrTab (c : Char) : Bool := c == ' ' || c == '\t'

/-- A character that separates tokens. -/
def isGap (c : Char) : Bool := isSpaceOrTab c || isBreak c

def byteOrderMark : Char := '\ufeff'

/-- A character that a YAML text may hold. -/
def isAllowed (c : Char) : Bool :=
  c == '\t' || c == '\n' || c == '\r' || (' ' ≤ c && c ≤ '~') || c == '\x85' || ('\xa0' ≤ c && c ≤ '\ufffd') ||
    0x10000 ≤ c.toNat

/-- Line ends as they are read: a carriage return, alone or before a line feed, becomes a line feed. -/
def unifyLineEnds : List Char → List Char
  | '\r' :: '\n' :: rest => '\n' :: unifyLineEnds rest
  | '\r' :: rest => '\n' :: unifyLineEnds rest
  | c :: rest => c :: unifyLineEnds rest
  | [] => []

/-- The character that a line end stands for inside a scalar. -/
def breakMeaning (c : Char) : Char := if c = '\x85' then '\n' else c

/-- What a line end and the line ends after it stand for between two parts of a scalar. -/
def foldBreaks (first : Char) (others : List Char) : List Char :=
  if breakMeaning first ≠ '\n' then breakMeaning first :: others
  else if others.isEmpty then [' ']
  else others

/-- A character and its place. -/
structure Glyph where
  char : Char
  line : Nat
  column : Nat
  offset : Nat
  deriving DecidableEq, Repr

namespace Glyph

/-- The glyphs of a text whose first character is at the given place. -/
def ofTextAt (line column offset : Nat) : List Char → List Glyph
  | [] => []
  | c :: rest =>
    ⟨c, line, column, offset⟩ ::
      if isBreak c then ofTextAt (line + 1) 0 (offset + 1) rest
      else ofTextAt line (if c = byteOrderMark then column else column + 1) (offset + 1) rest

def ofText (text : List Char) : List Glyph := ofTextAt 0 0 0 text

def text (glyphs : List Glyph) : List Char := glyphs.map (·.char)

end Glyph

/-! ### Questions about what is left to read -/

/-- Whether something is left and its first character has a property. -/
def startsWith (holds : Char → Bool) : List Glyph → Bool
  | [] => false
  | glyph :: _ => holds glyph.char

/-- Whether nothing is left, or what is left starts with a character that has a property. -/
def endsOr (holds : Char → Bool) : List Glyph → Bool
  | [] => true
  | glyph :: _ => holds glyph.char

/-- Whether a token that ends here is followed by a separator. -/
def atGap : List Glyph → Bool := endsOr isGap

/-- Whether a space or the end of the line follows. -/
def atSpaceOrLineEnd : List Glyph → Bool := endsOr fun c ↦ c == ' ' || isBreak c

/-- Whether three equal characters stand here, followed by a separator. -/
def atMarker (mark : Char) : List Glyph → Bool
  | first :: second :: third :: rest =>
    first.char == mark && second.char == mark && third.char == mark && atGap rest
  | _ => false

/-- Whether the mark of the start or the end of a document stands here. -/
def atDocumentMarker (rest : List Glyph) : Bool := atMarker '-' rest || atMarker '.' rest

/-- What is left after the glyphs whose character has a property. -/
def skipWhile (holds : Char → Bool) (rest : List Glyph) : List Glyph :=
  rest.dropWhile fun glyph ↦ holds glyph.char

/-- The characters with a property that come first. -/
def charsWhile (holds : Char → Bool) (rest : List Glyph) : List Char :=
  Glyph.text (rest.takeWhile fun glyph ↦ holds glyph.char)

end WorkerAdvisor.Yaml
