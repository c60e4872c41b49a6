import WorkerAdvisor.Proofs.Concept.BestEntry
import WorkerAdvisor.Proofs.Text.Normal

/-!
Asking for a concept by a name that the knowledge base gives for it.

A query is compared with the names in lower case and without the white space around it, and a name keeps the white
space around it. So a name finds an entry of that name if no white space is around it (`find_of_mem_names`). A name
with white space around it is looked up as a shorter one (`normalize_ne_lower`), under which another entry may stand
or none. `alwaysExplained_iff` says that the names without white space around them are exactly those that can be
relied on, and `padded_id_unknown` gives a file with an id that is listed and not found.
-/

set_option autoImplicit false

namespace WorkerAdvisor.Concept

/-! ### Looking a name up -/

/-- A name without white space around it is only lowered. -/
theorem normalize_of_trimmed {name : String} (htrimmed : Text.trimBlank name.toList = name.toList) :
    normalize name = Text.lower name := by
  rw [normalize, htrimmed, String.ofList_toList]

/-- A name with white space around it is looked up as something that is no name of the entry. -/
theorem normalize_ne_lower {name : String} (hpadded : Text.trimBlank name.toList ≠ name.toList) :
    normalize name ≠ Text.lower name := by
  intro hsame
  simp only [normalize, Text.lower, String.toList_ofList] at hsame
  have hchars := congrArg String.toList hsame
  simp only [String.toList_ofList] at hchars
  exact hpadded (Text.eq_of_infix_of_lower_eq (Text.trimBlank_infix_self name.toList) hchars)

/-! ### Asking for what is listed -/

/-- Whether a name can be relied on: wherever it has been listed as an id, or is the title or an alias of an entry,
asking for it gives an entry that has this name, letter case apart. -/
def AlwaysExplained (name : String) : Prop :=
  ∀ (directory : String) (file later : File) (desk : Desk) (headings : List Heading) (entries : List Entry),
    (desk.list directory file).answer = .ok headings → (desk.knowledgeBase directory file).answer = .ok entries →
    ((∃ heading ∈ headings, heading.id = name) ∨ ∃ entry ∈ entries, entry.title = name ∨ name ∈ entry.aliases) →
    ∃ found ∈ entries, ((desk.list directory file).desk.explain directory later (.text name)).answer =
      .ok (.found found) ∧ Text.lower name ∈ found.names

/-- What is listed as an id, or is the title or an alias of an entry, is in lower case a name of an entry. -/
theorem exists_mem_names_of_listed {directory : String} {file : File} {desk : Desk} {headings : List Heading}
    {entries : List Entry} {name : String} (hheadings : (desk.list directory file).answer = .ok headings)
    (hentries : (desk.knowledgeBase directory file).answer = .ok entries)
    (hlisted : (∃ heading ∈ headings, heading.id = name) ∨
      ∃ entry ∈ entries, entry.title = name ∨ name ∈ entry.aliases) :
    ∃ entry ∈ entries, Text.lower name ∈ entry.names := by
  rcases hlisted with ⟨heading, hheading, rfl⟩ | ⟨entry, hentry, rfl | halias⟩
  · rw [Desk.list, ask_eq, hentries] at hheadings
    obtain rfl : entries.map (fun entry ↦ (⟨entry.id, entry.title⟩ : Heading)) = headings := by
      simpa [Except.map] using hheadings
    obtain ⟨entry, hentry, rfl⟩ := List.mem_map.mp hheading
    exact ⟨entry, hentry, by simp [Entry.names]⟩
  · exact ⟨entry, hentry, by simp [Entry.names]⟩
  · exact ⟨entry, hentry, List.mem_map_of_mem (by simp [halias])⟩

/-- An entry is explained exactly if it is found by the normalized name. -/
theorem explanation_eq_found_iff {asked : String} {entries : List Entry} {entry : Entry} :
    Desk.explanation asked entries = .found entry ↔ find entries (normalize asked) = some entry := by
  unfold Desk.explanation
  cases find entries (normalize asked) <;> simp

/-- A desk that has listed its concepts explains any words by the entries, whatever the file is by then. -/
theorem explain_after_list {desk : Desk} {directory : String} {file : File} (later : File) {entries : List Entry}
    {name : String} (hwords : name.toList.all Text.isBlank = false)
    (hentries : (desk.knowledgeBase directory file).answer = .ok entries) :
    ((desk.list directory file).desk.explain directory later (.text name)).answer =
      .ok (Desk.explanation name entries) := by
  have hloaded : (desk.list directory file).desk.loaded = some entries := by
    rw [Desk.list, ask_eq]
    exact loaded_of_ok hentries
  rw [(explain_of_knows directory _ (Desk.knows_of_loaded later hloaded)).1, concept_text hwords]
  rfl

/-- An entry that has one name and nothing else. -/
def Entry.called (name : String) : Entry := ⟨name, name, [], "", [], []⟩

@[simp] theorem mem_names_called {query name : String} :
    query ∈ (Entry.called name).names ↔ query = Text.lower name := by
  simp [Entry.names, Entry.called]

/-- Whatever a name is, an entry that has it without the white space around it is given if it comes first. -/
theorem find_called_trimmed (name : String) (entries : List Entry) :
    find (.called (String.ofList (Text.trimBlank name.toList)) :: entries) (normalize name) =
      some (.called (String.ofList (Text.trimBlank name.toList))) := by
  simp [find, normalize]

/-- Of all names that are not blank, those without white space around them are the ones that can be relied on. Before a
name with white space around it, an entry may stand that has the name without the white space. -/
theorem alwaysExplained_iff {name : String} (hwords : name.toList.all Text.isBlank = false) :
    AlwaysExplained name ↔ Text.trimBlank name.toList = name.toList := by
  constructor
  · intro hexplained
    by_contra hpadded
    -- The entry in front has the name without the white space, so it is the one that is given.
    have hanswer (entries : List Entry) : ((⟨some entries⟩ : Desk).knowledgeBase "" none).answer = .ok entries := rfl
    obtain ⟨found, -, hfound, hname⟩ := hexplained "" none none
      ⟨some [.called (String.ofList (Text.trimBlank name.toList)), .called name]⟩ _ _ rfl (hanswer _)
      (.inr ⟨.called name, by simp, .inl rfl⟩)
    rw [explain_after_list none hwords (hanswer _), Except.ok.injEq, explanation_eq_found_iff, find_called_trimmed,
      Option.some.injEq] at hfound
    rw [← hfound, mem_names_called] at hname
    exact normalize_ne_lower hpadded hname.symm
  · intro htrimmed directory file later desk headings entries hheadings hentries hlisted
    obtain ⟨found, hmem, hfound, hname⟩ :=
      find_of_mem_names (exists_mem_names_of_listed hheadings hentries hlisted)
    refine ⟨found, hmem, ?_, hname⟩
    rw [explain_after_list later hwords hentries, Except.ok.injEq, explanation_eq_found_iff,
      normalize_of_trimmed htrimmed, hfound]

/-- A title of two words can be relied on; with a space before it, it cannot. -/
theorem alwaysExplained_title :
    AlwaysExplained "KV vs R2" ∧ ¬ AlwaysExplained " KV vs R2" :=
  ⟨(alwaysExplained_iff (by decide)).mpr (by decide), fun hexplained ↦
    absurd ((alwaysExplained_iff (by decide)).mp hexplained) (by decide)⟩

/-- A file with an id that has spaces around it is loaded, and the id is listed as it is, but not found when it is
asked for. -/
theorem padded_id_unknown :
    let file : File := some "concepts:\n- id: \" kv \"\n  title: Key-value\n  summary: s\n".toUTF8
    let desk := (Desk.fresh.list "config" file).desk
    (Desk.fresh.list "config" file).answer = .ok [⟨" kv ", "Key-value"⟩] ∧
      (desk.explain "config" file (.text " kv ")).answer = .ok (.unknown " kv ") ∧ ¬ AlwaysExplained " kv " := by
  intro file desk
  have hload : KnowledgeBase.load file = .ok [⟨" kv ", "Key-value", [], "s", [], []⟩] :=
    KnowledgeBase.load_of_toOption (by decide +kernel)
  have hentries : (Desk.fresh.knowledgeBase "config" file).answer = .ok [⟨" kv ", "Key-value", [], "s", [], []⟩] :=
    (ask_of_knows "config" id (Desk.knows_fresh hload)).1
  have hlist : (Desk.fresh.list "config" file).answer = .ok [⟨" kv ", "Key-value"⟩] :=
    (ask_of_knows "config" _ (Desk.knows_fresh hload)).1
  have hunknown : (desk.explain "config" file (.text " kv ")).answer = .ok (.unknown " kv ") := by
    rw [explain_after_list file (by decide) hentries]
    decide +kernel
  refine ⟨hlist, hunknown, fun hexplained ↦ ?_⟩
  obtain ⟨found, -, hfound, -⟩ := hexplained "config" file file .fresh _ _ hlist hentries
    (.inl ⟨_, List.mem_singleton_self _, rfl⟩)
  cases hunknown.symm.trans hfound

end WorkerAdvisor.Concept
