import Mathlib.Data.List.Induction
import WorkerAdvisor.Concept.Lookup
import WorkerAdvisor.Proofs.Assistant.SameAnswers

/-!
The entry that a question is answered with.

The first entry that has the query among its names comes before all others (`IsFirstNamed`). If there is none, it is the
entry with the longest name that partly matches, and of several entries with such a name the first (`IsLongestMatch`).

The search goes through the names of one entry after the other and keeps the best choice so far. What the names of one
entry do to it is said by `foldl_consider`, that a best choice stays one by `IsChoice.snoc`, and what is found in the end
by `isChoice_bestPartial`. `answered_by_best_entry` says it of the questions that are put to a desk.
-/

set_option autoImplicit false

namespace WorkerAdvisor.Concept

variable {entries : List Entry} {entry : Entry} {query : String}

/-! ### The entries that are looked for -/

/-- Whether an entry is the first that has a query among its names. -/
def IsFirstNamed (entries : List Entry) (query : String) (entry : Entry) : Prop :=
  ∃ before after, entries = before ++ entry :: after ∧ query ∈ entry.names ∧
    ∀ earlier ∈ before, query ∉ earlier.names

/-- Whether an entry is the first of those with the longest name that partly matches a query. The empty name does not
count. -/
def IsLongestMatch (entries : List Entry) (query : String) (entry : Entry) : Prop :=
  ∃ before after, entries = before ++ entry :: after ∧
    ∃ name ∈ entry.names, name ≠ "" ∧ partlyMatches query name = true ∧
      (∀ other ∈ entries, ∀ second ∈ other.names, partlyMatches query second = true → second.length ≤ name.length) ∧
      ∀ earlier ∈ before, ∀ second ∈ earlier.names, partlyMatches query second = true → second.length < name.length

theorem IsFirstNamed.mem (hfirst : IsFirstNamed entries query entry) : entry ∈ entries := by
  obtain ⟨before, after, rfl, -⟩ := hfirst
  simp

theorem IsFirstNamed.mem_names (hfirst : IsFirstNamed entries query entry) : query ∈ entry.names := by
  obtain ⟨before, after, -, hquery, -⟩ := hfirst
  exact hquery

theorem IsLongestMatch.mem (hlongest : IsLongestMatch entries query entry) : entry ∈ entries := by
  obtain ⟨before, after, rfl, -⟩ := hlongest
  simp

/-! ### The best choice -/

/-- The length of the name that led to a choice; zero without one. -/
def Candidate.length (best : Candidate) : Nat :=
  match best with
  | none => 0
  | some (_, length) => length

/-- A longer name that matches is chosen. -/
theorem consider_of_longer {best : Candidate} {name : String} (hmatches : partlyMatches query name = true)
    (hlonger : best.length < name.length) : best.consider query entry name = some (entry, name.length) :=
  if_pos ⟨hmatches, hlonger⟩

/-- A choice stays if the name does not match or is no longer. -/
theorem consider_of_not_longer {best : Candidate} {name : String}
    (hbound : partlyMatches query name = true → name.length ≤ best.length) :
    best.consider query entry name = best :=
  if_neg fun ⟨hmatches, hlonger⟩ ↦ Nat.not_lt.mpr (hbound hmatches) hlonger

/-- The names of one entry leave a choice as it is if none that partly matches is longer, and otherwise the longest of
them replaces it. -/
theorem foldl_consider (query : String) (entry : Entry) (names : List String) (best : Candidate) :
    (names.foldl (Candidate.consider query entry) best = best ∧
        ∀ name ∈ names, partlyMatches query name = true → name.length ≤ best.length) ∨
      ∃ name ∈ names, partlyMatches query name = true ∧ best.length < name.length ∧
        names.foldl (Candidate.consider query entry) best = some (entry, name.length) ∧
        ∀ second ∈ names, partlyMatches query second = true → second.length ≤ name.length := by
  induction names generalizing best with
  | nil => exact .inl ⟨rfl, by simp⟩
  | cons first names ih =>
    simp only [List.foldl_cons, List.mem_cons, forall_eq_or_imp, exists_eq_or_imp]
    by_cases hfirst : partlyMatches query first = true ∧ best.length < first.length
    · obtain ⟨hmatches, hlonger⟩ := hfirst
      rw [consider_of_longer hmatches hlonger]
      rcases ih (some (entry, first.length)) with ⟨hsame, hbound⟩ | ⟨name, hname, hmatches', hlonger', hnext, hbound⟩
      · exact .inr (.inl ⟨hmatches, hlonger, hsame, fun _ ↦ Nat.le_refl _, hbound⟩)
      · exact .inr (.inr ⟨name, hname, hmatches', Nat.lt_trans hlonger hlonger', hnext,
          fun _ ↦ Nat.le_of_lt hlonger', hbound⟩)
    · have hnot : partlyMatches query first = true → first.length ≤ best.length :=
        fun hmatches ↦ Nat.not_lt.mp fun hlonger ↦ hfirst ⟨hmatches, hlonger⟩
      rw [consider_of_not_longer hnot]
      rcases ih best with ⟨hsame, hbound⟩ | ⟨name, hname, hmatches', hlonger', hnext, hbound⟩
      · exact .inl ⟨hsame, hnot, hbound⟩
      · exact .inr (.inr ⟨name, hname, hmatches', hlonger', hnext,
          fun hmatches ↦ Nat.le_trans (hnot hmatches) (Nat.le_of_lt hlonger'), hbound⟩)

/-- Whether a choice is the best among entries: no name that partly matches is longer than the one that led to it, and
those of the entries before the chosen one are all shorter. -/
structure IsChoice (query : String) (entries : List Entry) (best : Candidate) : Prop where
  bound : ∀ entry ∈ entries, ∀ name ∈ entry.names, partlyMatches query name = true → name.length ≤ best.length
  chosen : ∀ entry length, best = some (entry, length) → ∃ before after, entries = before ++ entry :: after ∧
    (∃ name ∈ entry.names, name.length = length ∧ 0 < length ∧ partlyMatches query name = true) ∧
    ∀ earlier ∈ before, ∀ name ∈ earlier.names, partlyMatches query name = true → name.length < length

/-- Going through the names of one more entry makes the best choice the best with that entry. -/
theorem IsChoice.snoc {best : Candidate} (hchoice : IsChoice query entries best) (entry : Entry) :
    IsChoice query (entries ++ [entry]) (entry.names.foldl (Candidate.consider query entry) best) := by
  rcases foldl_consider query entry entry.names best with
    ⟨hsame, hbound⟩ | ⟨name, hname, hmatches, hlonger, hnext, hbound⟩
  · rw [hsame]
    refine ⟨?_, fun other length hbest ↦ ?_⟩
    · simpa [or_imp, forall_and] using ⟨hchoice.bound, hbound⟩
    · obtain ⟨before, after, rfl, hchosen⟩ := hchoice.chosen other length hbest
      exact ⟨before, after ++ [entry], by simp, hchosen⟩
  · rw [hnext]
    have hshorter : ∀ earlier ∈ entries, ∀ second ∈ earlier.names, partlyMatches query second = true →
        second.length < name.length :=
      fun earlier hearlier second hsecond hmatches' ↦
        Nat.lt_of_le_of_lt (hchoice.bound earlier hearlier second hsecond hmatches') hlonger
    refine ⟨fun other hother second hsecond hmatches' ↦ ?_, fun other length hbest ↦ ?_⟩
    · rcases List.mem_append.mp hother with hold | hnew
      · exact Nat.le_of_lt (hshorter other hold second hsecond hmatches')
      · obtain rfl := List.mem_singleton.mp hnew
        exact hbound second hsecond hmatches'
    · obtain ⟨rfl, rfl⟩ : entry = other ∧ name.length = length := by simpa using hbest
      exact ⟨entries, [], rfl, ⟨name, hname, rfl, Nat.zero_lt_of_lt hlonger, hmatches⟩, hshorter⟩

/-- The choice among entries goes on with the names of the next entry. -/
theorem bestPartial_snoc (query : String) (entries : List Entry) (entry : Entry) :
    bestPartial query (entries ++ [entry]) =
      entry.names.foldl (Candidate.consider query entry) (bestPartial query entries) := by
  simp only [bestPartial, List.foldl_append, List.foldl_cons, List.foldl_nil]

/-- The choice among all entries is the first of the longest names that match. -/
theorem isChoice_bestPartial (query : String) (entries : List Entry) :
    IsChoice query entries (bestPartial query entries) := by
  induction entries using List.reverseRecOn with
  | nil => exact ⟨by simp, fun _ _ hbest ↦ by simp [bestPartial] at hbest⟩
  | append_singleton entries entry ih =>
    rw [bestPartial_snoc]
    exact ih.snoc entry

/-! ### What is found -/

/-- An entry that has the query as a name is found before all partial matches, the first one if there are several. -/
theorem find_of_named (hnamed : ∃ entry ∈ entries, query ∈ entry.names) :
    ∃ found, IsFirstNamed entries query found ∧ find entries query = some found := by
  cases hfirst : entries.find? fun entry ↦ entry.names.contains query with
  | none =>
    obtain ⟨entry, hentry, hquery⟩ := hnamed
    have hother := List.find?_eq_none.mp hfirst entry hentry
    simp [hquery] at hother
  | some found =>
    obtain ⟨hquery, before, after, hentries, hbefore⟩ := List.find?_eq_some_iff_append.mp hfirst
    exact ⟨found, ⟨before, after, hentries, by simpa using hquery, by simpa using hbefore⟩, by rw [find, hfirst]⟩

/-- An entry with the query among its names is found if there is one. -/
theorem find_of_mem_names (hnamed : ∃ entry ∈ entries, query ∈ entry.names) :
    ∃ found ∈ entries, find entries query = some found ∧ query ∈ found.names := by
  obtain ⟨found, hfirst, hfind⟩ := find_of_named hnamed
  exact ⟨found, hfirst.mem, hfind, hfirst.mem_names⟩

theorem find_of_unnamed (hunnamed : ∀ entry ∈ entries, query ∉ entry.names) :
    find entries query = (bestPartial query entries).map (·.1) := by
  have hnone : (entries.find? fun entry ↦ entry.names.contains query) = none := by simpa using hunnamed
  rw [find, hnone]

/-- If the query is no name, but some name that is not empty matches in part, the entry with the longest is found. -/
theorem find_of_partlyMatches (hunnamed : ∀ entry ∈ entries, query ∉ entry.names)
    (hmatch : ∃ entry ∈ entries, ∃ name ∈ entry.names, name ≠ "" ∧ partlyMatches query name = true) :
    ∃ found, IsLongestMatch entries query found ∧ find entries query = some found := by
  obtain ⟨entry, hentry, name, hname, hnonempty, hmatches⟩ := hmatch
  have hchoice := isChoice_bestPartial query entries
  rw [find_of_unnamed hunnamed]
  cases hbest : bestPartial query entries with
  | none =>
    have hbound := hchoice.bound entry hentry name hname hmatches
    rw [hbest, Candidate.length, Nat.le_zero, String.length_eq_zero_iff] at hbound
    exact absurd hbound hnonempty
  | some choice =>
    obtain ⟨found, length⟩ := choice
    obtain ⟨before, after, hentries, ⟨longest, hlongest, rfl, hpositive, hmatches'⟩, hbefore⟩ :=
      hchoice.chosen found length hbest
    have hbound := hchoice.bound
    rw [hbest] at hbound
    refine ⟨found, ⟨before, after, hentries, longest, hlongest, ?_, hmatches', hbound, hbefore⟩, rfl⟩
    rintro rfl
    simp at hpositive

/-- Nothing is found if the query is no name and no name but the empty one matches in part. -/
theorem find_eq_none (hunnamed : ∀ entry ∈ entries, query ∉ entry.names)
    (hnone : ∀ entry ∈ entries, ∀ name ∈ entry.names, partlyMatches query name = true → name = "") :
    find entries query = none := by
  rw [find_of_unnamed hunnamed, Option.map_eq_none_iff, Option.eq_none_iff_forall_ne_some]
  rintro ⟨found, length⟩ hbest
  obtain ⟨before, after, hentries, ⟨name, hname, rfl, hpositive, hmatches⟩, -⟩ :=
    (isChoice_bestPartial query entries).chosen found length hbest
  have hempty := hnone found (by simp [hentries]) name hname hmatches
  simp [hempty] at hpositive

/-! ### What is answered -/

theorem explain_text_of_knows (directory : String) {file : File} {desk : Desk} (hknows : desk.Knows file entries)
    {asked : String} (hwords : asked.toList.all Text.isBlank = false) :
    (desk.explain directory file (.text asked)).answer = .ok (Desk.explanation asked entries) := by
  rw [(explain_of_knows directory _ hknows).1, concept_text hwords]
  rfl

/-- What is found is explained. -/
theorem explanation_of_find {asked : String} (hfind : find entries (normalize asked) = some entry) :
    Desk.explanation asked entries = .found entry := by
  rw [Desk.explanation, hfind]

/-- A question is answered with the first entry that has the query among its names. If there is none, it is answered with
the entry that has the longest name that partly matches, the first such entry if there are several; and if no name but
the empty one matches even partly, what was asked is handed back. The query is what was asked, without the white space
around it and in lower case, and the entry depends on nothing else.
Assumes: the desk holds the entries, or its file does; and what is asked is not blank. -/
theorem answered_by_best_entry (directory : String) {file : File} {desk : Desk} {entries : List Entry}
    (hknows : desk.Knows file entries) {asked : String} (hwords : asked.toList.all Text.isBlank = false) :
    let query := normalize asked
    let answer := (desk.explain directory file (.text asked)).answer
    ((∃ entry ∈ entries, query ∈ entry.names) →
      ∃ found, IsFirstNamed entries query found ∧ answer = .ok (.found found)) ∧
    ((∀ entry ∈ entries, query ∉ entry.names) →
      (∃ entry ∈ entries, ∃ name ∈ entry.names, name ≠ "" ∧ partlyMatches query name = true) →
      ∃ found, IsLongestMatch entries query found ∧ answer = .ok (.found found)) ∧
    ((∀ entry ∈ entries, query ∉ entry.names) →
      (∀ entry ∈ entries, ∀ name ∈ entry.names, partlyMatches query name = true → name = "") →
      answer = .ok (.unknown asked) ∧ unknownMessage asked = "Requesting explanation for: " ++ asked) ∧
    ∀ other : String, other.toList.all Text.isBlank = false → normalize other = query → ∀ found,
      (desk.explain directory file (.text other)).answer = .ok (.found found) ↔ answer = .ok (.found found) := by
  intro query answer
  have hanswer : answer = .ok (Desk.explanation asked entries) := explain_text_of_knows directory hknows hwords
  refine ⟨fun hnamed ↦ ?_, fun hunnamed hmatch ↦ ?_, fun hunnamed hnone ↦ ?_, fun other hother hsame found ↦ ?_⟩
  · obtain ⟨found, hfirst, hfind⟩ := find_of_named hnamed
    exact ⟨found, hfirst, by rw [hanswer, explanation_of_find hfind]⟩
  · obtain ⟨found, hlongest, hfind⟩ := find_of_partlyMatches hunnamed hmatch
    exact ⟨found, hlongest, by rw [hanswer, explanation_of_find hfind]⟩
  · refine ⟨?_, rfl⟩
    rw [hanswer, Desk.explanation, find_eq_none hunnamed hnone]
  · rw [explain_text_of_knows directory hknows hother, hanswer, Desk.explanation, Desk.explanation, hsame]
    cases find entries query <;> simp

/-- A longer name further on wins over a shorter one, and the empty name does not count. -/
theorem longer_name_answered :
    let buckets : Entry := ⟨"r2", "R2", ["", "db"], "", [], []⟩
    let tables : Entry := ⟨"d1", "D1 db", ["r2"], "", [], []⟩
    let desk : Desk := ⟨some [buckets, tables, tables]⟩
    ∃ found, IsLongestMatch [buckets, tables, tables] "d1 db r2" found ∧
      (desk.explain "config" none (.text " D1 db R2\n")).answer = .ok (.found found) := by
  intro buckets tables desk
  have hknows : desk.Knows none [buckets, tables, tables] := Desk.knows_of_loaded none rfl
  have hquery : normalize " D1 db R2\n" = "d1 db r2" := by decide +kernel
  have hwords : " D1 db R2\n".toList.all Text.isBlank = false := by decide
  obtain ⟨-, hlongest, -⟩ := answered_by_best_entry "config" hknows hwords
  rw [hquery] at hlongest
  have hunnamed : ∀ entry ∈ [buckets, tables, tables], "d1 db r2" ∉ entry.names := by decide +kernel
  have hname : "d1 db" ∈ tables.names := by decide +kernel
  have hmatches : partlyMatches "d1 db r2" "d1 db" = true := by decide +kernel
  exact hlongest hunnamed ⟨tables, by simp, "d1 db", hname, by decide, hmatches⟩

end WorkerAdvisor.Concept
