import WorkerAdvisor.Text.Quoted
import WorkerAdvisor.Yaml.Glyph
import WorkerAdvisor.Yaml.Tag

/-!
How a text is written as a scalar.

A text is written plainly where it would be read back as that text, else in single quotes, and in double quotes
where it holds characters that must be escaped or where spaces meet line ends. Long scalars are folded: a
single space beyond the line width becomes a line end, and in double quotes the line is cut after a backslash.
Lines after the first are indented.
-/

set_option autoImplicit false

namespace WorkerAdvisor.Yaml.ScalarStyle

inductive Style
  | plain
  | single
  | double
  deriving DecidableEq, Repr

/-- The column after which a line is folded. -/
def width : Nat := 80

/-- The indentation of the lines after the first. -/
def indent : Nat := 4

def newLine : List Char := '\n' :: List.replicate indent ' '

/-! ### The choice of a style -/

/-- A character that only double quotes can hold. -/
def isSpecial (c : Char) : Bool :=
  !(c == '\n' || (' ' ≤ c && c ≤ '~') ||
    (c != byteOrderMark && (c == '\x85' || ('\xa0' ≤ c && c ≤ '\ufffd') ||
      (0x10000 ≤ c.toNat && c.toNat < 0x10FFFF))))

/-- Whether a character separates tokens, or would if it were not escaped. -/
def separates (c : Char) : Bool := isGap c || c == '\x00' || c == '\r'

/-- Whether nothing or a separator follows. -/
def separatorFollows : List Char → Bool
  | [] => true
  | c :: _ => separates c

def hasAdjacent (first second : Char → Bool) : List Char → Bool
  | c :: d :: rest => (first c && second d) || hasAdjacent first second (d :: rest)
  | _ => false

def hasAtEnd (holds : Char → Bool) (cs : List Char) : Bool :=
  cs.head?.any holds || cs.getLast?.any holds

/-- A character that cannot begin a plain scalar. -/
def isFirstIndicator (c : Char) : Bool := "#,[]\x7b\x7d&*!|>'\"%@\x60".toList.contains c

/-- Whether a text has a colon before a separator, or a number sign after one. -/
def hasInnerIndicator : List Char → Bool
  | [] => false
  | c :: rest =>
    (c == ':' && separatorFollows rest) || (separates c && rest.head? == some '#') || hasInnerIndicator rest

/-- Whether a text would not be read as a plain scalar because of characters that have a meaning. -/
def hasIndicator (cs : List Char) : Bool :=
  cs.take 3 == ['-', '-', '-'] || cs.take 3 == ['.', '.', '.'] ||
    (match cs with
      | [] => false
      | c :: rest => isFirstIndicator c || ((c == '?' || c == '-') && separatorFollows rest)) ||
    hasInnerIndicator cs

def fitsSingle (cs : List Char) : Bool :=
  !cs.any isSpecial && !hasAdjacent isBreak (· == ' ') cs && !hasAdjacent (· == ' ') isBreak cs

/-- Whether a text can be written plainly and is read back as a text. -/
def fitsPlain (cs : List Char) : Bool :=
  fitsSingle cs && !cs.any isBreak && !hasAtEnd (· == ' ') cs && !hasIndicator cs &&
    Tag.ofForm (String.ofList cs) == .text

/-- The style in which a text is written. -/
def choose (cs : List Char) : Style :=
  if fitsPlain cs then .plain else if fitsSingle cs then .single else .double

/-! ### Writing -/

/-- Whether a single space stands here that a line end may take the place of: not the first or the last
character, and not beside another space. -/
def isFold (mayFold : Bool) (rest : List Char) : Bool :=
  mayFold && !rest.isEmpty && rest.head? != some ' '

/-- Writes a plain scalar from a column on. `mayFold` tells whether a single space here may be folded. -/
def plainFrom : (column : Nat) → (mayFold : Bool) → List Char → List Char
  | _, _, [] => []
  | column, mayFold, c :: rest =>
    if c = ' ' then
      if isFold mayFold rest && width < column then newLine ++ plainFrom indent true rest
      else ' ' :: plainFrom (column + 1) false rest
    else c :: plainFrom (column + 1) true rest

/-- Writes the inside of single quotes from a column on. A quote is written twice. A line feed that begins a
row of line ends is written twice too, since one of them is dropped when they are read. `afterBreak` tells
whether a line end precedes. -/
def singleFrom : (column : Nat) → (mayFold afterBreak : Bool) → List Char → List Char
  | _, _, _, [] => []
  | column, mayFold, afterBreak, c :: rest =>
    if c = ' ' then
      if isFold mayFold rest && width < column then newLine ++ singleFrom indent true false rest
      else ' ' :: singleFrom (column + 1) false false rest
    else if isBreak c then
      let doubled := if c = '\n' ∧ !afterBreak then ['\n', '\n'] else [c]
      let next := if rest.head?.any isBreak then [] else List.replicate indent ' '
      doubled ++ next ++ singleFrom indent true true rest
    else if c = '\'' then '\'' :: '\'' :: singleFrom (column + 2) true false rest
    else c :: singleFrom (column + 1) true false rest

/-- The letter after the backslash in the escape of a character. -/
def escapeLetter? (c : Char) : Option Char :=
  [('\x00', '0'), ('\x07', 'a'), ('\x08', 'b'), ('\t', 't'), ('\n', 'n'), ('\x0b', 'v'), ('\x0c', 'f'),
    ('\r', 'r'), ('\x1b', 'e'), ('"', '"'), ('\\', '\\'), ('\x85', 'N'), ('\xa0', '_'), ('\u2028', 'L'),
    ('\u2029', 'P')].lookup c

def isEscaped (c : Char) : Bool :=
  c == '"' || c == '\\' || c == '\x85' || c == '\u2028' || c == '\u2029' || c == byteOrderMark ||
    !((' ' ≤ c && c ≤ '~') || ('\xa0' ≤ c && c ≤ '\ufffd'))

/-- The last `width` hexadecimal digits of a number, in capitals. -/
def capitalDigits (width n : Nat) : List Char := (Text.hexDigits width n).map Char.toUpper

def escape (c : Char) : List Char :=
  match escapeLetter? c with
  | some letter => ['\\', letter]
  | none =>
    if c.toNat < 0x100 then '\\' :: 'x' :: capitalDigits 2 c.toNat
    else if c.toNat < 0x10000 then '\\' :: 'u' :: capitalDigits 4 c.toNat
    else '\\' :: 'U' :: capitalDigits 8 c.toNat

/-- Writes the inside of double quotes from a column on. A line may be cut before a space, which then gets a
backslash of its own, and next to an escape, but not at the ends of the text. -/
def doubleFrom : (column : Nat) → (first afterEscape : Bool) → List Char → List Char
  | _, _, _, [] => []
  | column, first, afterEscape, c :: rest =>
    let inside := !first && !rest.isEmpty
    if isEscaped c then
      let escaped := escape c
      if inside && width + 1 < column + escaped.length then
        let guard := if rest.head? = some ' ' then ['\\'] else []
        escaped ++ '\\' :: newLine ++ guard ++ doubleFrom (indent + guard.length) false true rest
      else escaped ++ doubleFrom (column + escaped.length) false true rest
    else if inside && (c == ' ' || afterEscape) && width < column then
      let guard := if c = ' ' then ['\\'] else []
      '\\' :: newLine ++ guard ++ c :: doubleFrom (indent + guard.length + 1) false false rest
    else c :: doubleFrom (column + 1) false false rest

/-- Writes a text as a scalar that begins at a column. -/
def print (column : Nat) (cs : List Char) : List Char :=
  match choose cs with
  | .plain => plainFrom column false cs
  | .single => '\'' :: singleFrom (column + 1) false false cs ++ ['\'']
  | .double => '"' :: doubleFrom (column + 1) true false cs ++ ['"']

end WorkerAdvisor.Yaml.ScalarStyle
