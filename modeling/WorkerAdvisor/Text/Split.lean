/-!
Splitting a text at a separator.
-/

set_option autoImplicit false

namespace WorkerAdvisor.Text

/-- The parts of a text between the occurrences of a separator. There is at least one part. -/
def splitOn (separator : Char) : List Char → List (List Char)
  | [] => [[]]
  | c :: rest =>
    if c = separator then [] :: splitOn separator rest
    else match splitOn separator rest with
      | first :: others => (c :: first) :: others
      | [] => [[c]]

theorem splitOn_ne_nil (separator : Char) (cs : List Char) : splitOn separator cs ≠ [] := by
  cases cs with
  | nil => simp [splitOn]
  | cons c rest =>
    unfold splitOn
    split
    · simp
    · split <;> simp

/-- A text is its parts with the separator between them. -/
theorem intercalate_splitOn (separator : Char) (cs : List Char) :
    [separator].intercalate (splitOn separator cs) = cs := by
  induction cs with
  | nil => simp [splitOn]
  | cons c rest ih =>
    unfold splitOn
    split
    · rename_i hseparator
      cases hparts : splitOn separator rest with
      | nil => exact absurd hparts (splitOn_ne_nil separator rest)
      | cons first others => rw [hparts] at ih; simp [hseparator, ih]
    · split
      · rename_i first others hparts
        rw [hparts] at ih
        cases others with
        | nil => simpa using ih
        | cons second others => simpa using ih
      · rename_i hparts
        exact absurd hparts (splitOn_ne_nil separator rest)

/-- A separator between two texts separates their parts. -/
theorem splitOn_append (separator : Char) (first second : List Char) :
    splitOn separator (first ++ separator :: second) = splitOn separator first ++ splitOn separator second := by
  induction first with
  | nil => simp [splitOn]
  | cons c first ih =>
    rw [List.cons_append, splitOn, splitOn, ih]
    by_cases hc : c = separator
    · simp [hc]
    · cases hparts : splitOn separator first with
      | nil => exact absurd hparts (splitOn_ne_nil separator first)
      | cons part parts => simp [hc]

/-- A text without the separator is one part. -/
theorem splitOn_of_not_mem {separator : Char} {cs : List Char} (hseparator : separator ∉ cs) :
    splitOn separator cs = [cs] := by
  induction cs with
  | nil => rfl
  | cons c cs ih =>
    rw [List.mem_cons, not_or] at hseparator
    rw [splitOn, if_neg (Ne.symm hseparator.1), ih hseparator.2]

/-- The parts of a text before and after the first occurrence of a separator; without one, the second part
is empty. -/
def breakAt (separator : Char) (cs : List Char) : List Char × List Char :=
  (cs.takeWhile (· ≠ separator), (cs.dropWhile (· ≠ separator)).drop 1)

theorem breakAt_cons (separator c : Char) (cs : List Char) :
    breakAt separator (c :: cs) =
      if c = separator then ([], cs) else (c :: (breakAt separator cs).1, (breakAt separator cs).2) := by
  by_cases hc : c = separator <;> simp [breakAt, hc]

/-- A text with something behind its first separator is what stands before the separator, the separator, and what
stands behind it. -/
theorem breakAt_eq_iff {separator : Char} {cs head rest : List Char} (hrest : rest ≠ []) :
    breakAt separator cs = (head, rest) ↔ cs = head ++ separator :: rest ∧ separator ∉ head := by
  induction cs generalizing head with
  | nil => simp [breakAt, hrest.symm]
  | cons c cs ih =>
    rw [breakAt_cons]
    by_cases hc : c = separator
    · cases head with
      | nil => simp [hc]
      | cons first head =>
        simp only [hc, if_true, Prod.mk.injEq, reduceCtorEq, false_and, List.cons_append, List.cons.injEq,
          List.mem_cons, false_iff]
        rintro ⟨⟨hfirst, -⟩, hhead⟩
        exact hhead (.inl hfirst)
    · cases head with
      | nil => simp [hc]
      | cons first head =>
        have hbehind := @ih head
        rw [Prod.ext_iff] at hbehind
        simp only [if_neg hc, Prod.mk.injEq, List.cons.injEq, and_assoc, hbehind, List.cons_append, List.mem_cons,
          not_or]
        constructor
        · rintro ⟨rfl, rfl, hhead⟩
          exact ⟨rfl, rfl, Ne.symm hc, hhead⟩
        · rintro ⟨hfirst, hcs, -, hhead⟩
          exact ⟨hfirst, hcs, hhead⟩

end WorkerAdvisor.Text
