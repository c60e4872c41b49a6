import WorkerAdvisor.Text.Quoted
import WorkerAdvisor.Yaml.Fault
import WorkerAdvisor.Yaml.Glyph

/-!
Quoted scalars.

Between single quotes only the quote itself is special: it is written twice. Between double quotes a backslash
begins an escape. In both, a single line end becomes a space, of several the first is dropped, and spaces
next to a line end are dropped; after a backslash the line end is dropped too.
-/

set_option autoImplicit false

namespace WorkerAdvisor.Yaml.Quoted

def simpleEscape? (c : Char) : Option Char :=
  [('0', '\x00'), ('a', '\x07'), ('b', '\x08'), ('t', '\t'), ('\t', '\t'), ('n', '\n'), ('v', '\x0b'),
    ('f', '\x0c'), ('r', '\r'), ('e', '\x1b'), (' ', ' '), ('"', '"'), ('\\', '\\'), ('/', '/'),
    ('N', '\x85'), ('_', '\xa0'), ('L', '\u2028'), ('P', '\u2029')].lookup c

/-- The number of hexadecimal digits after the letter of an escape by number. -/
def numberEscape? (c : Char) : Option Nat :=
  [('x', 2), ('u', 4), ('U', 8)].lookup c

/-- Reads hexadecimal digits, where `value` is the number read so far. -/
def hexNumber? : (digits value : Nat) → List Glyph → Option (Nat × List Glyph)
  | 0, value, rest => some (value, rest)
  | _ + 1, _, [] => none
  | digits + 1, value, glyph :: rest =>
    match Text.hexValue? glyph.char with
    | some digit => hexNumber? digits (16 * value + digit) rest
    | none => none

/-- The character with a number. Numbers between the two ranges of code points, which are no characters of a
text, give the replacement character. -/
def charOfNumber (n : Nat) : Except Fault Char :=
  if 0x80000000 ≤ n then .error .oversizedCharacter
  else if 0x110000 ≤ n then .error .noSuchCharacter
  else if 0xD800 ≤ n ∧ n ≤ 0xDFFF then .ok '\ufffd'
  else .ok (Char.ofNat n)

/-- The line ends that stand together, apart from spaces and tabs, and what is left. The mark of a
document's start or end may not stand at the start of a line. -/
def breaks : (atLineStart : Bool) → List Glyph → Except Fault (List Char × List Glyph)
  | _, [] => .ok ([], [])
  | atLineStart, glyph :: rest =>
    if atLineStart && atDocumentMarker (glyph :: rest) then .error .malformed
    else if isSpaceOrTab glyph.char then breaks false rest
    else if isBreak glyph.char then
      match breaks true rest with
      | .ok (others, left) => .ok (breakMeaning glyph.char :: others, left)
      | .error fault => .error fault
    else .ok ([], glyph :: rest)

/-- What an escape stands for, and what is left, given what follows the backslash. -/
def escape : List Glyph → Except Fault (List Char × List Glyph)
  | [] => .error .malformed
  | glyph :: rest =>
    match simpleEscape? glyph.char, numberEscape? glyph.char with
    | some c, _ => .ok ([c], rest)
    | none, some digits =>
      match hexNumber? digits 0 rest with
      | none => .error .malformed
      | some (n, left) =>
        match charOfNumber n with
        | .ok c => .ok ([c], left)
        | .error fault => .error fault
    | none, none => if isBreak glyph.char then breaks true rest else .error .malformed

/-- What spaces and line ends stand for, and what is left, where they come first. -/
def gap (rest : List Glyph) : Except Fault (List Char × List Glyph) :=
  let spaces := charsWhile isSpaceOrTab rest
  match skipWhile isSpaceOrTab rest with
  | [] => .error .malformed
  | glyph :: rest =>
    if isBreak glyph.char then
      match breaks true rest with
      | .ok (others, left) => .ok (foldBreaks glyph.char others, left)
      | .error fault => .error fault
    else .ok (spaces, glyph :: rest)

def prepend (chars : List Char) : Except Fault (List Char × List Glyph) → Except Fault (List Char × List Glyph)
  | .ok (more, left) => .ok (chars ++ more, left)
  | .error fault => .error fault

/-- The text of a scalar in single quotes, from its first character to the quote that ends it, and what is
left. `steps` bounds the number of pieces. -/
def readSingle : (steps : Nat) → List Glyph → Except Fault (List Char × List Glyph)
  | 0, _ => .error .malformed
  | _ + 1, [] => .error .malformed
  | steps + 1, glyph :: rest =>
    if glyph.char = '\'' then
      match rest with
      | second :: others =>
        if second.char = '\'' then prepend ['\''] (readSingle steps others) else .ok ([], rest)
      | [] => .ok ([], [])
    else if isGap glyph.char then
      match gap (glyph :: rest) with
      | .ok (chars, left) => prepend chars (readSingle steps left)
      | .error fault => .error fault
    else prepend [glyph.char] (readSingle steps rest)

/-- The text of a scalar in double quotes, from its first character to the quote that ends it, and what is
left. `steps` bounds the number of pieces. -/
def readDouble : (steps : Nat) → List Glyph → Except Fault (List Char × List Glyph)
  | 0, _ => .error .malformed
  | _ + 1, [] => .error .malformed
  | steps + 1, glyph :: rest =>
    if glyph.char = '"' then .ok ([], rest)
    else if glyph.char = '\\' then
      match escape rest with
      | .ok (chars, left) => prepend chars (readDouble steps left)
      | .error fault => .error fault
    else if isGap glyph.char then
      match gap (glyph :: rest) with
      | .ok (chars, left) => prepend chars (readDouble steps left)
      | .error fault => .error fault
    else prepend [glyph.char] (readDouble steps rest)

end WorkerAdvisor.Yaml.Quoted
