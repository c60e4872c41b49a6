/-!
Occurrence of one text inside another, character for character.
-/

set_option autoImplicit false

namespace WorkerAdvisor.Text

/-- Whether `needle` stands somewhere in a list of characters. -/
def occursIn (needle : List Char) : List Char → Bool
  | [] => needle.isEmpty
  | c :: rest => needle.isPrefixOf (c :: rest) || occursIn needle rest

/-- The search finds a text exactly if it is a stretch of the other one. -/
theorem occursIn_iff {needle text : List Char} : occursIn needle text = true ↔ needle <:+: text := by
  induction text with
  | nil => simp [occursIn]
  | cons c rest ih =>
    simp only [occursIn, Bool.or_eq_true, List.isPrefixOf_iff_prefix, ih, List.infix_cons_iff]

end WorkerAdvisor.Text
