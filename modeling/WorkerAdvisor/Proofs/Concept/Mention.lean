import WorkerAdvisor.Proofs.Concept.BestEntry
import WorkerAdvisor.Proofs.Pattern.Spelling
import WorkerAdvisor.Proofs.Text.Normal

/-!
Names that stand as words in a longer question.

A query and a name partly match if the query is a part of the name and not too short, or if the name stands in the query
with no word character on either side, wherever that is (`partlyMatches_iff`).

A name stands in a question if there is nothing on either side of it or a mark, which is a character of ASCII that belongs
to no word. When the question is trimmed and put into lower case, the name goes into lower case by itself and the marks
beside it stay (`exists_sides_of_normalize`), so it stands alone in the query (`occursIn_standingAlone_iff`) and partly
matches it. A question with such a name in it therefore always has an answer, and the entry that is given has no shorter
name to show for it (`mention_explained`).
-/

set_option autoImplicit false

namespace WorkerAdvisor.Concept

open Pattern

/-! ### Names that stand alone -/

/-- Where a name stands in a text with no word character on either side. -/
theorem occursIn_standingAlone_iff {name text : List Char} :
    (standingAlone name).occursIn text = true ↔
      ∃ before after, text = before ++ name ++ after ∧ Place.startsWord before.reverse = false ∧
        Place.startsWord after = false := by
  rw [standingAlone, notAfterWord, notBeforeWord, (Spells.literalChars name).occursIn_between_iff]
  simp only [Bool.not_eq_true']
  constructor
  · rintro ⟨before, run, after, htext, hbefore, rfl, hafter⟩
    exact ⟨before, after, htext, hbefore, hafter⟩
  · rintro ⟨before, after, htext, hbefore, hafter⟩
    exact ⟨before, name, after, htext, hbefore, rfl, hafter⟩

/-- A text does not start with a word exactly if its first character, if any, is in none. -/
theorem startsWord_eq_false_iff {cs : List Char} :
    Place.startsWord cs = false ↔ ∀ c ∈ cs.head?, Text.isWordChar c = false := by
  cases cs <;> simp [Place.startsWord]

/-- A query and a name partly match exactly if the query has at least three characters and stands in the name, or the
name stands in the query, letter for letter, with no word character on either side. Any place where it stands so will do,
whatever stands beside the name in other places. -/
theorem partlyMatches_iff (query name : String) :
    partlyMatches query name = true ↔
      (3 ≤ query.length ∧ query.toList <:+: name.toList) ∨
        ∃ before after, query.toList = before ++ name.toList ++ after ∧
          (∀ c ∈ before.getLast?, Text.isWordChar c = false) ∧ ∀ c ∈ after.head?, Text.isWordChar c = false := by
  rw [partlyMatches, Bool.or_eq_true, Bool.and_eq_true, decide_eq_true_eq, Text.occursIn_iff, occursIn_standingAlone_iff]
  simp only [startsWord_eq_false_iff, List.head?_reverse, minPartialLength]

-- Of two occurrences that overlap, the second one counts; the dots are no wildcards.
example : partlyMatches "xa.b-a.b-a.b" "a.b-a.b" = true ∧ partlyMatches "axb-axb" "a.b-a.b" = false := by decide

/-- A name between marks partly matches. -/
theorem partlyMatches_of_isMark {query name : String} {before after : List Char}
    (hquery : query.toList = before ++ name.toList ++ after) (hbefore : ∀ c ∈ before.getLast?, Text.IsMark c)
    (hafter : ∀ c ∈ after.head?, Text.IsMark c) : partlyMatches query name = true := by
  have hleft : Place.startsWord before.reverse = false :=
    startsWord_eq_false_iff.mpr fun c hc ↦ (hbefore c (by simpa using hc)).2
  have hright : Place.startsWord after = false := startsWord_eq_false_iff.mpr fun c hc ↦ (hafter c hc).2
  have hstands : (standingAlone name.toList).occursIn query.toList = true :=
    occursIn_standingAlone_iff.mpr ⟨before, after, hquery, hleft, hright⟩
  rw [partlyMatches, hstands, Bool.or_true]

/-! ### Questions with a name in them -/

variable {before name after : String}

/-- The query of a question with a name in it has the name in lower case, between marks or the ends of the query. -/
theorem exists_sides_of_normalize (hnonempty : name ≠ "") (htrimmed : Text.trimBlank name.toList = name.toList)
    (hbefore : ∀ c ∈ before.toList.getLast?, Text.IsMark c) (hafter : ∀ c ∈ after.toList.head?, Text.IsMark c)
    (hsigma : '\u03a3' ∉ (before ++ name ++ after).toList) :
    ∃ left right, (normalize (before ++ name ++ after)).toList = left ++ (Text.lower name).toList ++ right ∧
      (∀ c ∈ left.getLast?, Text.IsMark c) ∧ ∀ c ∈ right.head?, Text.IsMark c := by
  have htrim : Text.trimBlank (before ++ name ++ after).toList =
      before.toList.dropWhile Text.isBlank ++ name.toList ++ Text.dropEndWhile Text.isBlank after.toList := by
    rw [String.toList_append, String.toList_append, Text.trimBlank_append (by simpa using hnonempty) htrimmed]
  have hsigma' : '\u03a3' ∉ Text.trimBlank (before ++ name ++ after).toList :=
    fun hmem ↦ hsigma ((Text.trimBlank_infix_self _).subset hmem)
  have hname : '\u03a3' ∉ name.toList := fun hmem ↦ hsigma (by simp [hmem])
  refine ⟨_, _, ?_, Text.isMark_getLast hbefore, Text.isMark_head hafter⟩
  rw [normalize, Text.toList_lower (by simpa using hsigma'), String.toList_ofList, htrim, Text.toList_lower hname,
    List.flatMap_append, List.flatMap_append]

/-- Whatever partly matches, a question has an answer with a name that is no shorter, or a better one. -/
theorem find_of_mem_of_partlyMatches {entries : List Entry} {entry : Entry} {query name : String}
    (hentry : entry ∈ entries) (hname : name ∈ entry.names) (hnonempty : name ≠ "")
    (hmatches : partlyMatches query name = true) :
    ∃ found ∈ entries, find entries query = some found ∧
      (query ∈ found.names ∨
        ∃ other ∈ found.names, partlyMatches query other = true ∧ name.length ≤ other.length) := by
  by_cases hnamed : ∃ entry ∈ entries, query ∈ entry.names
  · obtain ⟨found, hfound, hfind, hquery⟩ := find_of_mem_names hnamed
    exact ⟨found, hfound, hfind, .inl hquery⟩
  · have hunnamed : ∀ entry ∈ entries, query ∉ entry.names := by simpa using hnamed
    obtain ⟨found, hlongest, hfind⟩ := find_of_partlyMatches hunnamed ⟨entry, hentry, name, hname, hnonempty, hmatches⟩
    obtain ⟨-, -, -, other, hother, -, hmatches', hbound, -⟩ := id hlongest
    exact ⟨found, hlongest.mem, hfind, .inr ⟨other, hother, hmatches', hbound entry hentry name hname hmatches⟩⟩

/-- A question with a name of an entry in it, as it is written there, is always answered with an entry. The query is a
name of the entry that is given, or a name of it partly matches that is no shorter than the one in the question.
Assumes: the desk holds the entries, or its file does; the name is not empty and has no white space around it; what stands
before the name is nothing or ends in a mark, and what stands behind it is nothing or begins with one; and there is no
capital sigma in the question, of which the lower case depends on what stands around it. -/
theorem mention_explained (directory : String) {file : File} {desk : Desk} {entries : List Entry}
    (hknows : desk.Knows file entries) {entry : Entry} (hentry : entry ∈ entries)
    (hname : name = entry.id ∨ name = entry.title ∨ name ∈ entry.aliases) (hnonempty : name ≠ "")
    (htrimmed : Text.trimBlank name.toList = name.toList) (hbefore : ∀ c ∈ before.toList.getLast?, Text.IsMark c)
    (hafter : ∀ c ∈ after.toList.head?, Text.IsMark c) (hsigma : '\u03a3' ∉ (before ++ name ++ after).toList) :
    let asked := before ++ name ++ after
    ∃ found ∈ entries, (desk.explain directory file (.text asked)).answer = .ok (.found found) ∧
      (normalize asked ∈ found.names ∨ ∃ other ∈ found.names, partlyMatches (normalize asked) other = true ∧
        (Text.lower name).length ≤ other.length) := by
  intro asked
  have hwords : asked.toList.all Text.isBlank = false := by
    rw [String.toList_append, String.toList_append]
    exact Text.all_isBlank_append_eq_false (by simpa using hnonempty) htrimmed _ _
  obtain ⟨left, right, hquery, hleft, hright⟩ :=
    exists_sides_of_normalize hnonempty htrimmed hbefore hafter hsigma
  have hlower : Text.lower name ∈ entry.names := by
    rw [Entry.names, List.mem_map]
    exact ⟨name, by simpa using hname, rfl⟩
  obtain ⟨found, hfound, hfind, hshown⟩ := find_of_mem_of_partlyMatches hentry hlower (Text.lower_ne_empty hnonempty)
    (partlyMatches_of_isMark hquery hleft hright)
  refine ⟨found, hfound, ?_, hshown⟩
  rw [explain_text_of_knows directory hknows hwords, explanation_of_find hfind]

/-- A title of signs is found in a question with white space around it, beside another name in the question. -/
theorem title_of_signs_explained :
    let entries : List Entry := [⟨"kv", "KV", ["(kv)"], "", [], []⟩, ⟨"cpp", "C++", [], "", [], []⟩]
    let desk : Desk := ⟨some entries⟩
    let asked := "\tKV or " ++ "C++" ++ ", then? "
    ∃ found ∈ entries, (desk.explain "config" none (.text asked)).answer = .ok (.found found) ∧
      (normalize asked ∈ found.names ∨ ∃ other ∈ found.names, partlyMatches (normalize asked) other = true ∧
        (Text.lower "C++").length ≤ other.length) := by
  intro entries desk asked
  have hknows : desk.Knows none entries := Desk.knows_of_loaded none rfl
  have hentry : (⟨"cpp", "C++", [], "", [], []⟩ : Entry) ∈ entries := by simp [entries]
  exact mention_explained "config" hknows hentry (.inr (.inl rfl)) (by decide) (by decide)
    (by rintro _ ⟨⟩; decide) (by rintro _ ⟨⟩; decide) (by decide)

end WorkerAdvisor.Concept
