/-!
What can be wrong with a YAML document.

Everything that breaks the format itself is one fault: characters that may not occur, bad syntax, unknown
tags and anchors, keys that cannot be keys. The others are scalars, or escapes inside them, that have the
right form and yet denote nothing.
-/

set_option autoImplicit false

namespace WorkerAdvisor.Yaml

/-- Why a document has no value. -/
inductive Fault
  /-- The text is no document. -/
  | malformed
  /-- An escape gives the number of a character beyond the last. -/
  | noSuchCharacter
  /-- An escape gives a number beyond 2³¹. -/
  | oversizedCharacter
  /-- A number is not written as one. -/
  | unreadableNumber
  /-- A number has no characters. -/
  | emptyNumber
  /-- A number in sixties is too large to be a real number. -/
  | oversizedNumber
  /-- A scalar that is marked as a truth value is none. -/
  | unknownTruth
  /-- A scalar that is marked as a date is not written as one. -/
  | unreadableDate
  /-- A date is not in the calendar. -/
  | impossibleDate
  deriving DecidableEq, Repr

end WorkerAdvisor.Yaml
