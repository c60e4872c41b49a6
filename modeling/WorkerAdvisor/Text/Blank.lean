/-!
White space, and its removal from the ends of a text.

Besides the ASCII blanks, white space holds the four information separators, the next-line control and
the space and separator characters of Unicode. The zero-width space and the byte order mark are not in it.
-/

set_option autoImplicit false

namespace WorkerAdvisor.Text

/-- A character of white space. -/
def isBlank (c : Char) : Bool :=
  (9 ≤ c.toNat && c.toNat ≤ 13) || (28 ≤ c.toNat && c.toNat ≤ 32) || c.toNat == 0x85 || c.toNat == 0xA0 ||
    c.toNat == 0x1680 || (0x2000 ≤ c.toNat && c.toNat ≤ 0x200A) || c.toNat == 0x2028 || c.toNat == 0x2029 ||
    c.toNat == 0x202F || c.toNat == 0x205F || c.toNat == 0x3000

/-- White space that may surround a number: all but the information separators. -/
def isMargin (c : Char) : Bool :=
  isBlank c && !(28 ≤ c.toNat && c.toNat ≤ 31)

/-- The characters without those at the end that satisfy `drop`. -/
def dropEndWhile (drop : Char → Bool) (cs : List Char) : List Char :=
  (cs.reverse.dropWhile drop).reverse

def trimBlank (cs : List Char) : List Char :=
  dropEndWhile isBlank (cs.dropWhile isBlank)

/-- The text of a number without the white space around it. -/
def trimMargin (cs : List Char) : List Char :=
  dropEndWhile isMargin (cs.dropWhile isMargin)

end WorkerAdvisor.Text
