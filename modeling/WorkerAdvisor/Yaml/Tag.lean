import WorkerAdvisor.Pattern
import WorkerAdvisor.Text.Split

/-!
Tags: the kinds of values that the nodes of a document stand for.

A plain scalar without a tag has the kind that its text has the form of: a truth value, a number, a date,
nothing at all, or one of the marks `<<` and `=`. Everything else is a text.
-/

set_option autoImplicit false

namespace WorkerAdvisor.Yaml

/-- The kind of value that a node stands for. -/
inductive Tag
  | null
  | boolean
  | integer
  | real
  | binary
  | timestamp
  | text
  | sequence
  | mapping
  | set
  | orderedPairs
  | pairs
  /-- The key whose value is merged into the mapping around it. -/
  | merge
  /-- The key whose value stands for the mapping around it. -/
  | default
  /-- A tag that no value has. -/
  | unknown
  deriving DecidableEq, Repr

namespace Tag

/-- What the tags of the common kinds begin with. -/
def commonStart : String := "tag:yaml.org,2002:"

/-- The tag with a given name. -/
def ofName (name : String) : Tag :=
  let common := [("null", null), ("bool", boolean), ("int", integer), ("float", real), ("binary", binary),
    ("timestamp", timestamp), ("str", text), ("seq", sequence), ("map", mapping), ("set", set),
    ("omap", orderedPairs), ("pairs", pairs), ("merge", merge), ("value", default)]
  ((common.map fun (suffix, tag) ↦ (commonStart ++ suffix, tag)).lookup name).getD unknown

end Tag

/-! ### The forms of plain scalars -/

namespace Form

open Pattern

def matchesAll (pattern : Pattern) (cs : List Char) : Bool :=
  (pattern.ends ⟨[], cs⟩).any fun place ↦ place.after.isEmpty

def digit : Pattern := single Char.isDigit

def shortNumber : Pattern := followedBy digit (optional digit)

/-- A character of a decimal number after its first digit. -/
def isDecimalPart (c : Char) : Bool := c.isDigit || c == '_'

def sign : Pattern := optional (single fun c ↦ c == '-' || c == '+')

def decimal : Pattern := followedBy digit (many isDecimalPart)

def exponent : Pattern :=
  sequence [single fun c ↦ c == 'e' || c == 'E', single fun c ↦ c == '-' || c == '+', many1 Char.isDigit]

def pointNumber : Pattern :=
  either
    (sequence [sign, decimal, literal ".", many isDecimalPart, optional exponent])
    (sequence [literal ".", decimal, optional exponent])

def infinity : Pattern :=
  sequence [sign, literal ".", anyOf (literal "inf") [literal "Inf", literal "INF"]]

def notANumber : Pattern :=
  followedBy (literal ".") (anyOf (literal "nan") [literal "NaN", literal "NAN"])

/-- The digits of a number that is written in a power of two: the mark of its base, and its digits. -/
def baseNumber (mark : String) (isDigit : Char → Bool) : Pattern :=
  sequence [sign, literal mark, many1 fun c ↦ isDigit c || c == '_']

def isOctalDigit (c : Char) : Bool := '0' ≤ c && c ≤ '7'

def isHexDigit (c : Char) : Bool := c.isDigit || ('a' ≤ c && c ≤ 'f') || ('A' ≤ c && c ≤ 'F')

def plainInteger : Pattern :=
  followedBy sign (either (literal "0") (followedBy (single fun c ↦ '1' ≤ c && c ≤ '9') (many isDecimalPart)))

/-- A part of a number in sixties after the first: one digit, or two of which the first is at most five. -/
def isSixtieth : List Char → Bool
  | [ones] => ones.isDigit
  | [tens, ones] => '0' ≤ tens && tens ≤ '5' && ones.isDigit
  | _ => false

def dropSign : List Char → List Char
  | [] => []
  | c :: rest => if c = '-' ∨ c = '+' then rest else c :: rest

def isSexagesimalInteger (cs : List Char) : Bool :=
  match Text.splitOn ':' (dropSign cs) with
  | first :: second :: others =>
    matchesAll decimal first && !first.head?.all (· == '0') && (second :: others).all isSixtieth
  | _ => false

/-- Whether a text is a real number in sixties: its last part has a point. -/
def isSexagesimalReal (cs : List Char) : Bool :=
  match Text.splitOn ':' (dropSign cs) with
  | first :: second :: others =>
    let last := (second :: others).getLast?.getD []
    matchesAll decimal first && (second :: others).dropLast.all isSixtieth &&
      isSixtieth (last.takeWhile (· != '.')) &&
      (match last.dropWhile (· != '.') with
        | [] => false
        | _ :: fraction => fraction.all isDecimalPart)
  | _ => false

def date : Pattern :=
  sequence [digit, digit, digit, digit, literal "-", digit, digit, literal "-", digit, digit]

/-- A date alone, where the month and the day may have one digit. -/
def looseDate : Pattern :=
  sequence [digit, digit, digit, digit, literal "-", shortNumber, literal "-", shortNumber]

/-- A date with a time of day, and perhaps a zone. -/
def dateTime : Pattern :=
  sequence [digit, digit, digit, digit, literal "-", shortNumber, literal "-", shortNumber,
    either (single fun c ↦ c == 'T' || c == 't') (many1 fun c ↦ c == ' ' || c == '\t'),
    shortNumber, literal ":", digit, digit, literal ":", digit, digit,
    optional (followedBy (literal ".") (many Char.isDigit)),
    optional (followedBy (many fun c ↦ c == ' ' || c == '\t') (either (literal "Z") (sequence [
      single fun c ↦ c == '-' || c == '+', shortNumber,
      optional (sequence [literal ":", digit, digit])])))]

def truthWords : List String :=
  ["yes", "Yes", "YES", "no", "No", "NO", "true", "True", "TRUE", "false", "False", "FALSE",
    "on", "On", "ON", "off", "Off", "OFF"]

def nullWords : List String := ["~", "null", "Null", "NULL", ""]

def indicatorWords : List String := ["!", "&", "*"]

def dropLineFeed (cs : List Char) : List Char :=
  if cs.getLast? = some '\n' then cs.dropLast else cs

end Form

open Form in
/-- The kind of value that a text has the form of. A line feed at its end does not count, but makes a text
of one that would otherwise be empty. -/
def Tag.ofForm (content : String) : Tag :=
  let cs := dropLineFeed content.toList
  let word := String.ofList cs
  if cs.isEmpty then (if content.isEmpty then .null else .text)
  else if truthWords.contains word then .boolean
  else if matchesAll pointNumber cs || isSexagesimalReal cs || matchesAll infinity cs ||
      matchesAll notANumber cs then .real
  else if matchesAll (baseNumber "0b" fun c ↦ c == '0' || c == '1') cs ||
      matchesAll (baseNumber "0" isOctalDigit) cs || matchesAll plainInteger cs ||
      matchesAll (baseNumber "0x" isHexDigit) cs || isSexagesimalInteger cs then .integer
  else if word = "<<" then .merge
  else if nullWords.contains word then .null
  else if matchesAll date cs || matchesAll dateTime cs then .timestamp
  else if word = "=" then .default
  else if indicatorWords.contains word then .unknown
  else .text

end WorkerAdvisor.Yaml
