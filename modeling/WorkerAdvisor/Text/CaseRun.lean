/-!
Case mappings as runs of code points.

Within a run the code points follow one another at a fixed step, and each maps to the code point at the
same distance from itself.
-/

set_option autoImplicit false

namespace WorkerAdvisor.Text

/-- The code points `first`, `first + step`, …, `last`, each of which maps to the one `shift` further. -/
structure CaseRun where
  first : Nat
  last : Nat
  step : Nat
  shift : Int

/-- The code point that a run maps a code point to, if it is in the run. -/
def CaseRun.image? (run : CaseRun) (code : Nat) : Option Nat :=
  if run.first ≤ code ∧ code ≤ run.last ∧ (code - run.first) % run.step = 0 then
    some (code + run.shift).toNat
  else none

/-- The code point that the first run with an image for it maps a code point to; itself if there is none. -/
def mapByRuns (runs : List CaseRun) (code : Nat) : Nat :=
  (runs.findSome? (·.image? code)).getD code

end WorkerAdvisor.Text
