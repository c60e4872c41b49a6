import WorkerAdvisor.Proofs.Assistant.SameAnswers
import WorkerAdvisor.Proofs.Yaml.ReadBack

/-!
Resources that are read back.

The text of the knowledge base, kept as the file of another desk, is loaded there as the entries with their texts
reread, and the text of the catalog of rules is loaded as its listing with the texts reread. So what is read back is
what was written exactly if none of the texts is lost (`readBack_iff`): a text with the character NEL that single quotes
can hold is, and no other. Where no text is lost, the other desk answers as the first one does.
-/

set_option autoImplicit false

namespace WorkerAdvisor

open WorkerAdvisor.Concept Yaml

/-! ### Names -/

namespace Resource

/-- The names of the listings and of their fields. -/
def names : List String :=
  ["rules", "id", "severity", "title", "description", "concepts", "aliases", "summary", "recommendations",
    "related_rules"]

/-- The names are written plainly. -/
theorem isName_of_mem {name : String} (hname : name ∈ names) : Reading.IsName name := by
  have hall : ∀ name ∈ names, name.toList.all Reading.isNameLetter = true ∧ name.toList ≠ [] ∧
      name.toList.length ≤ Reading.keyLimit ∧ Tag.ofForm name = .text := by
    decide +kernel
  obtain ⟨hletters, hnonempty, hshort, hform⟩ := hall name hname
  exact ⟨hletters, hnonempty, hshort, hform⟩

/-- A listing of records with such names is named. -/
theorem isNamed_of_names {α : Type} {name : String} {record : α → Record} (hname : name ∈ names)
    (hrecord : ∀ item, record item ≠ [] ∧ ∀ field ∈ record item, field.1 ∈ names) (items : List α) :
    Listing.IsNamed ⟨name, items.map record⟩ := by
  refine ⟨isName_of_mem hname, ?_⟩
  intro fields hfields
  obtain ⟨item, -, rfl⟩ := List.mem_map.mp hfields
  exact ⟨(hrecord item).1, fun field hfield ↦ isName_of_mem ((hrecord item).2 field hfield)⟩

/-- All names in the listing of concepts can be written as plain keys. -/
theorem isNamed_conceptListing (entries : List Entry) : (conceptListing entries).IsNamed :=
  isNamed_of_names (by decide) (fun entry ↦ by simp [entryRecord, names]) entries

/-- All names in the listing of rules can be written as plain keys. -/
theorem isNamed_ruleListing (catalog : List Rule) : (ruleListing catalog).IsNamed :=
  isNamed_of_names (by decide) (fun rule ↦ by simp [ruleRecord, names]) catalog

end Resource

/-! ### Entries -/

theorem Field.textItems_map_text (place : List FieldStep) (index : Nat) (contents : List String) :
    Field.textItems place index (contents.map .text) = .ok contents := by
  induction contents generalizing index with
  | nil => rfl
  | cons content contents ih =>
    rw [List.map_cons, Field.textItems, ih]
    rfl

namespace Concept

/-- An entry with its texts reread. -/
def Entry.reread (entry : Entry) : Entry :=
  ⟨Yaml.reread entry.id, Yaml.reread entry.title, entry.aliases.map Yaml.reread, Yaml.reread entry.summary,
    entry.recommendations.map Yaml.reread, entry.relatedRules.map Yaml.reread⟩

/-- The value of an entry describes the entry. -/
theorem Entry.ofValue_record (document : Document) (entry : Entry) :
    Entry.ofValue document.resolve (Listing.recordValue (Resource.entryRecord entry)) = .ok entry := by
  have htexts := Field.textItems_map_text
  simp [Listing.recordValue, Listing.fieldValue, Resource.entryRecord, Entry.ofValue, Document.resolve, Entry.ofFields,
    Field.required, Field.optional, Value.field?, List.lookup_cons, Field.text, Field.texts, htexts]

namespace KnowledgeBase

/-- Entries are read from the records that they are listed as. -/
theorem entriesOf_records (document : Document) (entries : List Entry) :
    entriesOf document.resolve ((entries.map Resource.entryRecord).map Listing.recordValue) = .ok entries := by
  induction entries with
  | nil => rfl
  | cons entry entries ih =>
    rw [List.map_cons, List.map_cons, entriesOf, Entry.ofValue_record, ih]
    rfl

/-- The listing of some entries says what they are. -/
theorem ofDocument_conceptListing (entries : List Entry) :
    ofDocument ⟨(Resource.conceptListing entries).value, []⟩ = .ok entries := by
  have hentries := entriesOf_records ⟨(Resource.conceptListing entries).value, []⟩ entries
  simpa [ofDocument, Listing.value_eq, Resource.conceptListing, Value.field?, Document.resolve] using hentries

/-- Rereading a listing of concepts is rereading each of its entries. -/
theorem reread_conceptListing (entries : List Entry) :
    (Resource.conceptListing entries).reread = Resource.conceptListing (entries.map Entry.reread) := by
  simp only [Listing.reread, Resource.conceptListing, List.map_map]
  rfl

/-- The text of a knowledge base is loaded as its entries with their texts reread. -/
theorem load_conceptListing (entries : List Entry) :
    load (some (Resource.conceptListing entries).print.toUTF8) = .ok (entries.map Entry.reread) := by
  rw [load_toUTF8, ofText, Listing.load_print _ (Resource.isNamed_conceptListing entries), reread_conceptListing]
  exact ofDocument_conceptListing _

/-- Entries can be told from their listing. -/
theorem conceptListing_inj {first second : List Entry} :
    Resource.conceptListing first = Resource.conceptListing second ↔ first = second := by
  refine ⟨fun heq ↦ ?_, congrArg _⟩
  have hfirst := ofDocument_conceptListing first
  rw [heq, ofDocument_conceptListing] at hfirst
  exact (Except.ok.inj hfirst).symm

/-- The text of a knowledge base is loaded as its entries exactly if none of their texts is lost. -/
theorem load_conceptListing_iff (entries : List Entry) :
    load (some (Resource.conceptListing entries).print.toUTF8) = .ok entries ↔
      ∀ content ∈ (Resource.conceptListing entries).texts, ¬ IsLost content := by
  rw [load_conceptListing, Except.ok.injEq, ← conceptListing_inj, ← reread_conceptListing]
  exact Listing.reread_eq_self_iff _

end KnowledgeBase

end Concept

/-! ### Rules -/

/-- The text of the rules is loaded as what it describes exactly if none of its texts is lost. -/
theorem load_ruleListing_iff (catalog : List Rule) :
    Yaml.load (Resource.ruleListing catalog).print.toList = .ok ⟨(Resource.ruleListing catalog).value, []⟩ ↔
      ∀ content ∈ (Resource.ruleListing catalog).texts, ¬ IsLost content :=
  Listing.load_print_iff _ (Resource.isNamed_ruleListing catalog)

/-! ### Copies -/

namespace Assistant

theorem step_readResource (session : Session) (file : File) (resource : Resource) :
    session.step file (.readResource resource.address) = session.read file resource := by
  have haddress : Resource.ofAddress? resource.address = some resource := by cases resource <;> decide +kernel
  rw [Session.step, haddress]

/-- What is read is read back. `concepts` and `rules` are the texts of the two resources in a session that knows some
entries, and `copy` is the text of the entries as the file of another directory.

The copy is always loaded, as the entries with their texts reread. It is loaded as the entries themselves, a fresh desk
there explains and lists as the first one does, and a fresh session there gives out the same text and answers all
requests alike, exactly if no text of the entries is lost. The text of the rules is loaded as what it describes exactly
if no text of the rules is lost.
Assumes: the desk of the session holds the entries, or its file does. -/
theorem readBack_iff (session : Session) (file : File) (directory : String) {entries : List Entry}
    (hknows : session.desk.Knows file entries) :
    ∃ concepts rules,
      (session.step file (.readResource Resource.concepts.address)).1 = .resource concepts ∧
      (session.step file (.readResource Resource.rules.address)).1 = .resource rules ∧
      let copy : File := some concepts.toUTF8
      let other := Session.fresh session.catalog directory
      KnowledgeBase.load copy = .ok (entries.map Entry.reread) ∧
      ((KnowledgeBase.load copy = .ok entries ∧
          (∀ asked, (Desk.fresh.explain directory copy asked).answer =
            (session.desk.explain session.directory file asked).answer) ∧
          (Desk.fresh.list directory copy).answer = (session.desk.list session.directory file).answer ∧
          (other.step copy (.readResource Resource.concepts.address)).1 = .resource concepts ∧
          ∀ requests, other.run copy requests = session.run file requests) ↔
        ∀ content ∈ (Resource.conceptListing entries).texts, ¬ IsLost content) ∧
      (Yaml.load rules.toList = .ok ⟨(Resource.ruleListing session.catalog).value, []⟩ ↔
        ∀ content ∈ (Resource.ruleListing session.catalog).texts, ¬ IsLost content) := by
  have hsession : session.Knows file session.catalog entries := ⟨rfl, hknows⟩
  refine ⟨(Resource.conceptListing entries).print, (Resource.ruleListing session.catalog).print, ?_, ?_,
    KnowledgeBase.load_conceptListing entries, ⟨fun hcopy ↦ ?_, fun hkept ↦ ?_⟩,
    load_ruleListing_iff session.catalog⟩
  · rw [step_readResource, read_of_knows hsession]
  · rw [step_readResource, read_of_knows hsession]
  · exact (KnowledgeBase.load_conceptListing_iff entries).mp hcopy.1
  · have hload := (KnowledgeBase.load_conceptListing_iff entries).mpr hkept
    have hdesk := Desk.knows_fresh hload
    have hother : (Session.fresh session.catalog directory).Knows _ session.catalog entries := ⟨rfl, hdesk⟩
    refine ⟨hload, fun asked ↦ ?_, ?_, ?_, fun requests ↦ run_eq_of_knows hother hsession requests⟩
    · rw [(explain_of_knows directory asked hdesk).1, (explain_of_knows _ asked hknows).1]
    · exact (ask_of_knows directory _ hdesk).1.trans (ask_of_knows _ _ hknows).1.symm
    · rw [step_readResource, read_of_knows hother]

/-- Texts that look like something else, and texts with line ends, are read back. -/
theorem readBack_of_kept :
    let entry : Entry := ⟨"kv", "yes", [], "# 1\n 2\u2028", ["", "<<", "a b "], ["0x1F"]⟩
    let session : Session := ⟨[], "config", ⟨some [entry]⟩⟩
    ∃ concepts, (session.step none (.readResource Resource.concepts.address)).1 = .resource concepts ∧
      KnowledgeBase.load (some concepts.toUTF8) = .ok [entry] := by
  intro entry session
  have hknows : session.desk.Knows none [entry] := Desk.knows_of_loaded none rfl
  obtain ⟨concepts, -, hconcepts, -, -, hiff, -⟩ := readBack_iff session none "copy" hknows
  exact ⟨concepts, hconcepts, (hiff.mpr (by decide +kernel)).1⟩

/-- A title with NEL is loaded, but a copy of the knowledge base has a space in its place. -/
theorem copy_of_nextLine :
    let file : File := some "concepts:\n- id: kv\n  title: \"a\\Nb\"\n  summary: s\n".toUTF8
    let entries : List Entry := [⟨"kv", "a\x85b", [], "s", [], []⟩]
    KnowledgeBase.load file = .ok entries ∧
      ∃ concepts, ((Session.fresh [] "config").step file (.readResource Resource.concepts.address)).1 =
          .resource concepts ∧
        KnowledgeBase.load (some concepts.toUTF8) = .ok [⟨"kv", "a b", [], "s", [], []⟩] ∧
        KnowledgeBase.load (some concepts.toUTF8) ≠ .ok entries := by
  intro file entries
  have hload : KnowledgeBase.load file = .ok entries := KnowledgeBase.load_of_toOption (by decide +kernel)
  have hsession : (Session.fresh [] "config").Knows file [] entries := ⟨rfl, Desk.knows_fresh hload⟩
  have hcopy := KnowledgeBase.load_conceptListing entries
  have hreread : entries.map Entry.reread = [⟨"kv", "a b", [], "s", [], []⟩] := by decide +kernel
  rw [hreread] at hcopy
  refine ⟨hload, _, by rw [step_readResource, read_of_knows hsession], hcopy, fun hsame ↦ ?_⟩
  rw [hcopy] at hsame
  exact absurd (Except.ok.inj hsame) (by decide)

end Assistant

end WorkerAdvisor
