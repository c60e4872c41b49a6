import WorkerAdvisor.Text.Split

/-!
The parts of a text, and the texts that begin at one of them.

Joining is the first part with each of the others behind a separator (`intercalate_cons_eq_flatMap`). A part with all that
follows it is what stands at the start of the text or behind a separator (`exists_parts_iff`), and it begins with the
part (`prefix_part_of_prefix`).
-/

set_option autoImplicit false

namespace WorkerAdvisor

/-- A stretch without a character ends before the first one of it. -/
theorem exists_rest_of_append_eq {c : Char} {run after first second : List Char}
    (hsplit : run ++ after = first ++ c :: second) (hrun : c ∉ run) :
    ∃ rest, first = run ++ rest ∧ after = rest ++ c :: second := by
  rcases List.append_eq_append_iff.1 hsplit with ⟨rest, hfirst, hafter⟩ | ⟨_ | ⟨d, others⟩, hmore, hsecond⟩
  · exact ⟨rest, hfirst, hafter⟩
  · exact ⟨[], by simpa using hmore.symm, by simpa using hsecond.symm⟩
  · obtain ⟨rfl, -⟩ := List.cons.inj hsecond
    exact absurd (by simp [hmore]) hrun

namespace Text

variable {separator : Char}

/-- Joined parts are the first part and each of the others behind a separator. -/
theorem intercalate_cons_eq_flatMap (part : List Char) (parts : List (List Char)) :
    [separator].intercalate (part :: parts) = part ++ parts.flatMap (separator :: ·) := by
  induction parts generalizing part with
  | nil => simp
  | cons second parts ih => rw [List.intercalate_cons_cons, ih]; simp

/-- A part of a text with all that follows it. -/
theorem exists_parts_iff {text rest : List Char} :
    (∃ earlier part later, splitOn separator text = earlier ++ part :: later ∧
        [separator].intercalate (part :: later) = rest) ↔
      ∃ before, text = before ++ rest ∧ (before = [] ∨ ∃ front, before = front ++ [separator]) := by
  constructor
  · rintro ⟨earlier, part, later, hparts, rfl⟩
    have htext := intercalate_splitOn separator text
    rw [hparts] at htext
    cases earlier with
    | nil => exact ⟨[], htext.symm, .inl rfl⟩
    | cons first earlier =>
      refine ⟨first ++ earlier.flatMap (separator :: ·) ++ [separator], ?_, .inr ⟨_, rfl⟩⟩
      rw [← htext, List.cons_append, intercalate_cons_eq_flatMap, intercalate_cons_eq_flatMap]
      simp
  · rintro ⟨before, rfl, hbefore⟩
    have hrest := intercalate_splitOn separator rest
    obtain ⟨part, later, hparts⟩ := List.exists_cons_of_ne_nil (splitOn_ne_nil separator rest)
    rw [hparts] at hrest
    rcases hbefore with rfl | ⟨front, rfl⟩
    · exact ⟨[], part, later, hparts, hrest⟩
    · refine ⟨splitOn separator front, part, later, ?_, hrest⟩
      rw [List.append_assoc, List.singleton_append, splitOn_append, hparts]

/-- A word without separators that a part with all that follows it begins with stands in that part. -/
theorem prefix_part_of_prefix {word part : List Char} {later : List (List Char)} (hword : separator ∉ word)
    (hbegins : word <+: [separator].intercalate (part :: later)) : word <+: part := by
  rw [intercalate_cons_eq_flatMap] at hbegins
  cases later with
  | nil => simpa using hbegins
  | cons second later =>
    rw [List.flatMap_cons, List.cons_append] at hbegins
    obtain ⟨after, hafter⟩ := hbegins
    obtain ⟨rest, hpart, -⟩ := exists_rest_of_append_eq hafter hword
    exact ⟨rest, hpart.symm⟩

end Text

end WorkerAdvisor
