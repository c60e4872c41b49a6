import WorkerAdvisor.Proofs.Concept.Reporting
import WorkerAdvisor.Proofs.Field

/-!
What loading a knowledge base comes to.

An item of the list of concepts is valid if it is a mapping whose fields hold what they have to (`IsValid`). Then it
describes one entry (`Describes`); otherwise it has faults, which stand in the order in which the fields are declared
(`faults`). A knowledge base is loaded exactly if all its items are valid, as the entries that they describe, and if not,
it is reported why, for the first item that is not valid (`outcome_of_load`).

`resolve` follows a value that stands for a collection around it.
-/

set_option autoImplicit false

namespace WorkerAdvisor.Concept

variable {resolve : Value → Value} {fields : List (String × Value)} {item : Value} {items : List Value} {entry : Entry}
  {entries : List Entry}

/-! ### Items that describe an entry -/

/-- Whether a field holds a text. -/
def HoldsText (fields : List (String × Value)) (name content : String) : Prop :=
  ∃ value, Value.field? fields name = some value ∧ value.text? = some content

/-- Whether a field holds a list of texts. A field that is absent counts as an empty list. -/
def HoldsTexts (resolve : Value → Value) (fields : List (String × Value)) (name : String)
    (contents : List String) : Prop :=
  match Value.field? fields name with
  | none => contents = []
  | some value => ∃ members, (resolve value).members? = some members ∧
      List.Forall₂ (fun member content ↦ member.text? = some content) members contents

/-- Whether fields hold what an entry says. -/
structure HoldsEntry (resolve : Value → Value) (fields : List (String × Value)) (entry : Entry) : Prop where
  id : HoldsText fields "id" entry.id
  title : HoldsText fields "title" entry.title
  aliases : HoldsTexts resolve fields "aliases" entry.aliases
  summary : HoldsText fields "summary" entry.summary
  recommendations : HoldsTexts resolve fields "recommendations" entry.recommendations
  relatedRules : HoldsTexts resolve fields "related_rules" entry.relatedRules

/-- Whether an item is a mapping whose fields hold what an entry says. -/
def Describes (resolve : Value → Value) (item : Value) (entry : Entry) : Prop :=
  ∃ fields, resolve item = .mapping fields ∧ HoldsEntry resolve fields entry

/-- Whether an item is valid: a mapping in which the id, the title and the summary are texts, and each other field of an
entry, if it is present, is a list of texts. -/
def IsValid (resolve : Value → Value) (item : Value) : Prop :=
  ∃ fields, resolve item = .mapping fields ∧
    (∀ name ∈ ["id", "title", "summary"], ∃ value, Value.field? fields name = some value ∧
      ∃ content, value.text? = some content) ∧
    ∀ name ∈ ["aliases", "recommendations", "related_rules"], ∀ value, Value.field? fields name = some value →
      ∃ members, (resolve value).members? = some members ∧ ∀ member ∈ members, ∃ content, member.text? = some content

/-- A required text passes with the text that the field holds. -/
theorem required_text_eq_ok_iff {name content : String} :
    Field.required fields name Field.text = .ok content ↔ HoldsText fields name content := by
  simp only [Field.required_eq_ok_iff, Field.text_eq_ok_iff, HoldsText]

/-- An optional list passes with the texts that the field holds, or with none. -/
theorem optional_texts_eq_ok_iff {name : String} {contents : List String} :
    Field.optional fields name [] (fun place value ↦ Field.texts place (resolve value)) = .ok contents ↔
      HoldsTexts resolve fields name contents := by
  simp only [Field.optional_eq_ok_iff, Field.texts_eq_ok_iff]
  rfl

theorem exists_holdsText_iff {name : String} :
    (∃ content, HoldsText fields name content) ↔
      ∃ value, Value.field? fields name = some value ∧ ∃ content, value.text? = some content := by
  simp only [HoldsText, ← exists_and_left]
  exact exists_comm

theorem exists_holdsTexts_iff {name : String} :
    (∃ contents, HoldsTexts resolve fields name contents) ↔ ∀ value, Value.field? fields name = some value →
      ∃ members, (resolve value).members? = some members ∧
        ∀ member ∈ members, ∃ content, member.text? = some content := by
  unfold HoldsTexts
  cases Value.field? fields name with
  | none => simp
  | some value =>
    simp only [Option.some.injEq, forall_eq', ← exists_forall₂_iff, ← exists_and_left]
    exact exists_comm

/-- An item is valid exactly if it is a mapping and each field holds something of its kind. -/
theorem isValid_iff_exists_holds :
    IsValid resolve item ↔ ∃ fields, resolve item = .mapping fields ∧
      (∃ id, HoldsText fields "id" id) ∧ (∃ title, HoldsText fields "title" title) ∧
      (∃ aliases, HoldsTexts resolve fields "aliases" aliases) ∧ (∃ summary, HoldsText fields "summary" summary) ∧
      (∃ recommendations, HoldsTexts resolve fields "recommendations" recommendations) ∧
      ∃ relatedRules, HoldsTexts resolve fields "related_rules" relatedRules := by
  simp only [IsValid, List.forall_mem_cons, List.not_mem_nil, false_implies, implies_true, and_true,
    ← exists_holdsText_iff, ← exists_holdsTexts_iff]
  refine exists_congr fun fields ↦ and_congr_right fun _ ↦ ?_
  tauto

/-- The valid items are those that describe an entry. -/
theorem isValid_iff_exists_describes : IsValid resolve item ↔ ∃ entry, Describes resolve item entry := by
  rw [isValid_iff_exists_holds]
  constructor
  · rintro ⟨fields, hfields, ⟨id, hid⟩, ⟨title, htitle⟩, ⟨aliases, haliases⟩, ⟨summary, hsummary⟩,
      ⟨recommendations, hrecommendations⟩, ⟨relatedRules, hrelatedRules⟩⟩
    exact ⟨⟨id, title, aliases, summary, recommendations, relatedRules⟩, fields, hfields,
      ⟨hid, htitle, haliases, hsummary, hrecommendations, hrelatedRules⟩⟩
  · rintro ⟨entry, fields, hfields, hentry⟩
    exact ⟨fields, hfields, ⟨_, hentry.id⟩, ⟨_, hentry.title⟩, ⟨_, hentry.aliases⟩, ⟨_, hentry.summary⟩,
      ⟨_, hentry.recommendations⟩, ⟨_, hentry.relatedRules⟩⟩

/-- The fields of an entry pass with the entry whose parts they hold. -/
theorem ofFields_eq_ok_iff : Entry.ofFields resolve fields = .ok entry ↔ HoldsEntry resolve fields entry := by
  simp only [Entry.ofFields]
  constructor
  · intro hok
    split at hok
    · rename_i hid htitle haliases hsummary hrecommendations hrelatedRules
      cases hok
      exact ⟨required_text_eq_ok_iff.mp hid, required_text_eq_ok_iff.mp htitle, optional_texts_eq_ok_iff.mp haliases,
        required_text_eq_ok_iff.mp hsummary, optional_texts_eq_ok_iff.mp hrecommendations,
        optional_texts_eq_ok_iff.mp hrelatedRules⟩
    · cases hok
  · rintro ⟨hid, htitle, haliases, hsummary, hrecommendations, hrelatedRules⟩
    simp only [required_text_eq_ok_iff.mpr hid, required_text_eq_ok_iff.mpr htitle,
      optional_texts_eq_ok_iff.mpr haliases, required_text_eq_ok_iff.mpr hsummary,
      optional_texts_eq_ok_iff.mpr hrecommendations, optional_texts_eq_ok_iff.mpr hrelatedRules]

/-- An item is read as an entry exactly if it describes the entry. -/
theorem ofValue_eq_ok_iff : Entry.ofValue resolve item = .ok entry ↔ Describes resolve item entry := by
  unfold Entry.ofValue Describes
  cases resolve item with
  | mapping fields => simp [ofFields_eq_ok_iff]
  | _ => simp

/-- An item describes one entry at most. -/
theorem Describes.unique {first second : Entry} (hfirst : Describes resolve item first)
    (hsecond : Describes resolve item second) : first = second :=
  Except.ok.inj ((ofValue_eq_ok_iff.mpr hfirst).symm.trans (ofValue_eq_ok_iff.mpr hsecond))

/-! ### Faults of an item -/

/-- What a field of an entry has to be. -/
inductive FieldKind
  /-- A text, which has to be present. -/
  | text
  /-- A list of texts, which may be absent. -/
  | texts

/-- The fields of an entry, in the order in which they are declared. -/
def declaredFields : List (String × FieldKind) :=
  [("id", .text), ("title", .text), ("aliases", .texts), ("summary", .text), ("recommendations", .texts),
    ("related_rules", .texts)]

/-- The faults of a field. -/
def fieldFaults (resolve : Value → Value) (fields : List (String × Value)) : String × FieldKind → List FieldError
  | (name, .text) =>
    match Value.field? fields name with
    | none => [⟨[.name name], .missing⟩]
    | some value => Field.textFaults [.name name] value
  | (name, .texts) =>
    match Value.field? fields name with
    | none => []
    | some value => Field.textsFaults [.name name] (resolve value)

/-- The faults of an item: those of its fields, in the order in which they are declared. -/
def faults (resolve : Value → Value) (item : Value) : List FieldError :=
  match resolve item with
  | .mapping fields => declaredFields.flatMap (fieldFaults resolve fields)
  | _ => [⟨[], .notRecord⟩]

/-- A text field has no faults exactly if it holds a text. -/
theorem fieldFaults_text_eq_nil_iff {name : String} :
    fieldFaults resolve fields (name, .text) = [] ↔ ∃ content, HoldsText fields name content := by
  rw [exists_holdsText_iff]
  cases hvalue : Value.field? fields name <;> simp [fieldFaults, hvalue, Field.textFaults_eq_nil_iff]

/-- A list field has no faults exactly if it holds texts or is not there. -/
theorem fieldFaults_texts_eq_nil_iff {name : String} :
    fieldFaults resolve fields (name, .texts) = [] ↔ ∃ contents, HoldsTexts resolve fields name contents := by
  rw [exists_holdsTexts_iff]
  cases hvalue : Value.field? fields name <;> simp [fieldFaults, hvalue, Field.textsFaults_eq_nil_iff]

/-- The items without a fault are the valid ones. -/
theorem faults_eq_nil_iff : faults resolve item = [] ↔ IsValid resolve item := by
  rw [isValid_iff_exists_holds]
  unfold faults
  cases resolve item with
  | mapping fields =>
    simp [declaredFields, fieldFaults_text_eq_nil_iff, fieldFaults_texts_eq_nil_iff]
  | _ => simp

theorem errors_required_text (name : String) :
    (Field.required fields name Field.text).errors = fieldFaults resolve fields (name, .text) := by
  simp only [Field.errors_required, Field.errors_text]
  rfl

theorem errors_optional_texts (name : String) :
    (Field.optional fields name [] fun place value ↦ Field.texts place (resolve value)).errors =
      fieldFaults resolve fields (name, .texts) := by
  simp only [Field.errors_optional, Field.errors_texts]
  rfl

/-- The faults of fields come in the order in which the fields are declared, and none hides another. -/
theorem errors_ofFields (resolve : Value → Value) (fields : List (String × Value)) :
    (Entry.ofFields resolve fields).errors = declaredFields.flatMap (fieldFaults resolve fields) := by
  simp only [declaredFields, List.flatMap_cons, List.flatMap_nil, List.append_nil, ← errors_required_text,
    ← errors_optional_texts, Entry.ofFields]
  split
  · rename_i hid htitle haliases hsummary hrecommendations hrelatedRules
    simp only [hid, htitle, haliases, hsummary, hrecommendations, hrelatedRules, Checked.errors_ok, List.append_nil]
  · simp only [Checked.errors_error, List.append_assoc]

/-- The faults that are found in an item are those of its fields, or the one that it is no mapping. -/
theorem errors_ofValue (resolve : Value → Value) (item : Value) :
    (Entry.ofValue resolve item).errors = faults resolve item := by
  unfold Entry.ofValue faults
  cases resolve item with
  | mapping fields => exact errors_ofFields resolve fields
  | _ => rfl

/-- An item that is not valid is reported with its faults. -/
theorem ofValue_of_not_isValid (hinvalid : ¬ IsValid resolve item) :
    Entry.ofValue resolve item = .error (faults resolve item) := by
  cases hitem : Entry.ofValue resolve item with
  | ok entry => exact absurd (isValid_iff_exists_describes.mpr ⟨entry, ofValue_eq_ok_iff.mp hitem⟩) hinvalid
  | error found => rw [← errors_ofValue, hitem, Checked.errors_error]

/-! ### Lists of items -/

/-- Items pass with the entries that they describe, one for each in the same order. -/
theorem entriesOf_eq_ok_iff :
    KnowledgeBase.entriesOf resolve items = .ok entries ↔ List.Forall₂ (Describes resolve) items entries := by
  induction items generalizing entries with
  | nil => simp [KnowledgeBase.entriesOf, eq_comm]
  | cons item items ih =>
    rw [KnowledgeBase.entriesOf]
    constructor
    · intro hok
      cases hitem : Entry.ofValue resolve item with
      | error found =>
        rw [hitem] at hok
        cases hok
      | ok first =>
        cases hrest : KnowledgeBase.entriesOf resolve items with
        | error reason =>
          rw [hitem, hrest] at hok
          cases hok
        | ok others =>
          rw [hitem, hrest] at hok
          cases hok
          exact .cons (ofValue_eq_ok_iff.mp hitem) (ih.mp hrest)
    · intro hall
      cases hall with
      | cons hfirst hothers =>
        rw [ofValue_eq_ok_iff.mpr hfirst, ih.mpr hothers]
        rfl

/-- Items pass exactly if all of them are valid. -/
theorem exists_entriesOf_iff :
    (∃ entries, KnowledgeBase.entriesOf resolve items = .ok entries) ↔ ∀ item ∈ items, IsValid resolve item := by
  simp only [entriesOf_eq_ok_iff, exists_forall₂_iff, isValid_iff_exists_describes]

/-- The first item that is not valid is reported, and no other. -/
theorem entriesOf_of_not_isValid {before after : List Value} (hbefore : ∀ earlier ∈ before, IsValid resolve earlier)
    (hinvalid : ¬ IsValid resolve item) :
    KnowledgeBase.entriesOf resolve (before ++ item :: after) =
      .error (.unusable (.invalidEntry (faults resolve item))) := by
  induction before with
  | nil => rw [List.nil_append, KnowledgeBase.entriesOf, ofValue_of_not_isValid hinvalid]
  | cons earlier before ih =>
    rw [List.forall_mem_cons] at hbefore
    obtain ⟨entry, hentry⟩ := isValid_iff_exists_describes.mp hbefore.1
    rw [List.cons_append, KnowledgeBase.entriesOf, ofValue_eq_ok_iff.mpr hentry, ih hbefore.2]
    rfl

/-! ### Files -/

/-- Whether a file holds a text, and this is what becomes of the text. -/
def Reads (file : File) (outcome : Except Yaml.Fault Yaml.Document) : Prop :=
  ∃ bytes text, file = some bytes ∧ String.fromUTF8? bytes = some text ∧ Yaml.load text.toList = outcome

/-- Whether a document is a mapping with a list of items under `concepts`. -/
def Lists (document : Yaml.Document) (items : List Value) : Prop :=
  ∃ fields, document.root = .mapping fields ∧
    (Value.field? fields "concepts").map document.resolve = some (.list items)

/-- The items under `concepts`, if a document is a mapping with a list of them there. -/
def items? (document : Yaml.Document) : Option (List Value) := do
  let fields ← document.root.entries?
  let concepts ← Value.field? fields "concepts"
  (document.resolve concepts).items?

variable {file : File} {document : Yaml.Document}

theorem items?_eq_some_iff : items? document = some items ↔ Lists document items := by
  simp only [items?, Lists, Option.bind_eq_bind, Option.bind_eq_some_iff, Option.map_eq_some_iff,
    Value.entries?_eq_some_iff, Value.items?_eq_some_iff]

theorem load_of_malformed (hfile : Reads file (.error .malformed)) :
    KnowledgeBase.load file = .error (.unusable .malformed) := by
  obtain ⟨bytes, text, rfl, htext, hload⟩ := hfile
  simp only [KnowledgeBase.load, htext, KnowledgeBase.ofText, hload]

theorem load_of_reads (hfile : Reads file (.ok document)) :
    KnowledgeBase.load file = KnowledgeBase.ofDocument document := by
  obtain ⟨bytes, text, rfl, htext, hload⟩ := hfile
  simp only [KnowledgeBase.load, htext, KnowledgeBase.ofText, hload]

/-- A document that lists concepts is loaded as its items are. -/
theorem ofDocument_of_lists (hitems : Lists document items) :
    KnowledgeBase.ofDocument document = KnowledgeBase.entriesOf document.resolve items := by
  obtain ⟨fields, hroot, hconcepts⟩ := hitems
  simp only [KnowledgeBase.ofDocument, hroot, hconcepts]

/-- A document without a list of concepts is reported as that. -/
theorem ofDocument_of_not_lists (hnone : ∀ items, ¬ Lists document items) :
    KnowledgeBase.ofDocument document = .error (.unusable .noConcepts) := by
  unfold KnowledgeBase.ofDocument
  split
  · rename_i fields hroot
    split
    · rename_i items hconcepts
      exact absurd ⟨fields, hroot, hconcepts⟩ (hnone items)
    · rfl
  · rfl

/-! ### What loading comes to -/

/-- The faults that a reason lists. -/
def Unusable.errors : Unusable → List FieldError
  | invalidEntry errors => errors
  | missing | malformed | noConcepts => []

/-- Whether a question is answered by a report on the knowledge base in a directory, with faults and a message, which
ends in the path of the file. -/
def Outcome.Reports {α : Type} (outcome : Outcome α) (directory message : String) (errors : List FieldError) : Prop :=
  ∃ reason : Unusable, outcome.answer = .error (.load (.unusable reason)) ∧
    reason.message (Desk.path directory) = message ++ Desk.path directory ∧ reason.errors = errors

/-- A reason why a file cannot be used is reported with the path of the file. -/
theorem reports_of_load {reason : Unusable} {message : String} (directory : String)
    (hload : KnowledgeBase.load file = .error (.unusable reason))
    (hmessage : reason.message (Desk.path directory) = message ++ Desk.path directory) :
    (Desk.fresh.knowledgeBase directory file).Reports directory message reason.errors :=
  ⟨reason, by rw [knowledgeBase_fresh, hload, mapError_error], hmessage, rfl⟩

/-- A fresh desk gives out the entries that its file holds. -/
theorem knowledgeBase_eq_ok_iff (directory : String) :
    (Desk.fresh.knowledgeBase directory file).answer = .ok entries ↔ KnowledgeBase.load file = .ok entries := by
  rw [knowledgeBase_fresh]
  cases KnowledgeBase.load file <;> simp

/-- What comes of loading a knowledge base from a file that is not there, or that holds a text. It is reported that the
file is not there, that the text is malformed, or that there is no list of concepts. With a list, loading succeeds
exactly if every item is valid, and gives one entry for each item, in order, which the item describes. Otherwise the
faults of the first item that is not valid are reported, and those of no other. After a failure the desk is as fresh as
before. In an item a set counts as the list of its members, and bytes count as the text that they encode. -/
theorem outcome_of_load (directory : String) (file : File) :
    let outcome := Desk.fresh.knowledgeBase directory file
    (file = none → outcome.Reports directory "Concept knowledge base not found: " []) ∧
    (Reads file (.error .malformed) → outcome.Reports directory "Malformed concept knowledge base " []) ∧
    (∀ document, Reads file (.ok document) →
      ((∀ items, ¬ Lists document items) → outcome.Reports directory "No concepts defined in " []) ∧
      ∀ items, Lists document items →
        ((∃ entries, outcome.answer = .ok entries) ↔ ∀ item ∈ items, IsValid document.resolve item) ∧
        (∀ entries, outcome.answer = .ok entries →
          List.Forall₂ (Describes document.resolve) items entries ∧ outcome.desk.loaded = some entries) ∧
        ∀ before item after, items = before ++ item :: after →
          (∀ earlier ∈ before, IsValid document.resolve earlier) → ¬ IsValid document.resolve item →
          outcome.Reports directory "Invalid concept definition in " (faults document.resolve item)) ∧
    ∀ error, outcome.answer = .error error → outcome.desk = .fresh := by
  intro outcome
  refine ⟨?_, fun hmalformed ↦ reports_of_load directory (load_of_malformed hmalformed) rfl, fun document hreads ↦ ?_,
    fun error ↦ desk_of_error directory⟩
  · rintro rfl
    exact ⟨.missing, rfl, rfl, rfl⟩
  have hload := load_of_reads hreads
  refine ⟨fun hnone ↦ reports_of_load directory (hload.trans (ofDocument_of_not_lists hnone)) rfl,
    fun items hitems ↦ ?_⟩
  rw [ofDocument_of_lists hitems] at hload
  refine ⟨?_, fun entries hentries ↦ ⟨?_, loaded_of_ok hentries⟩, ?_⟩
  · rw [← exists_entriesOf_iff, ← hload]
    exact exists_congr fun entries ↦ knowledgeBase_eq_ok_iff directory
  · rw [knowledgeBase_eq_ok_iff, hload] at hentries
    exact entriesOf_eq_ok_iff.mp hentries
  · rintro before item after rfl hbefore hinvalid
    exact reports_of_load directory (hload.trans (entriesOf_of_not_isValid hbefore hinvalid)) rfl

/-- A text is read as a document with a list of items that pass a test, if evaluating the text says so. -/
theorem exists_lists_of_test (text : String) (test : Yaml.Document → List Value → Bool)
    (htest : ((Yaml.load text.toList).toOption.any fun document ↦ (items? document).any (test document)) = true) :
    ∃ document items, Reads (some text.toUTF8) (.ok document) ∧ Lists document items ∧
      test document items = true := by
  have hvalid : text.toUTF8.IsValidUTF8 := text.isValidUTF8
  have hdecoded : String.fromUTF8? text.toUTF8 = some text := by
    rw [String.fromUTF8?, dif_pos hvalid]
    rfl
  cases hload : Yaml.load text.toList with
  | error fault => simp [hload, Except.toOption] at htest
  | ok document =>
    rw [hload, Except.toOption, Option.any_some, Option.any_eq_true] at htest
    obtain ⟨items, hitems, htest⟩ := htest
    exact ⟨document, items, ⟨_, text, rfl, hdecoded, hload⟩, items?_eq_some_iff.mp hitems, htest⟩

/-- The second of three items is reported, though the third is not valid either and the first has the same id. -/
theorem second_item_reported :
    let content := "concepts:\n- id: kv\n  title: KV\n  summary: s\n  limit: 1\n" ++
      "- id: kv\n  title: 5\n  aliases: null\n  summary: s\n- 7\n"
    (Desk.fresh.knowledgeBase "config" (some content.toUTF8)).Reports "config" "Invalid concept definition in "
      [⟨[.name "title"], .notText⟩, ⟨[.name "aliases"], .notList⟩] := by
  intro content
  obtain ⟨document, items, hreads, hitems, htest⟩ := exists_lists_of_test content
    (fun document items ↦ items.map (faults document.resolve) =
      [[], [⟨[.name "title"], .notText⟩, ⟨[.name "aliases"], .notList⟩], [⟨[], .notRecord⟩]])
    (by decide +kernel)
  obtain ⟨first, rest, rfl, hfirst, hrest⟩ := List.map_eq_cons_iff.mp (of_decide_eq_true htest)
  obtain ⟨second, last, rfl, hsecond, -⟩ := List.map_eq_cons_iff.mp hrest
  obtain ⟨-, -, hdocument, -⟩ := outcome_of_load "config" (some content.toUTF8)
  obtain ⟨-, -, hreport⟩ := (hdocument document hreads).2 _ hitems
  have hvalid : ∀ earlier ∈ [first], IsValid document.resolve earlier :=
    List.forall_mem_singleton.mpr (faults_eq_nil_iff.mp hfirst)
  have hinvalid : ¬ IsValid document.resolve second := by
    rw [← faults_eq_nil_iff, hsecond]
    exact List.cons_ne_nil _ _
  rw [← hsecond]
  exact hreport [first] second last rfl hvalid hinvalid

/-- A set of texts is no list, and is loaded as one. -/
theorem set_loaded_as_list :
    let content := "concepts:\n- id: kv\n  title: KV\n  aliases: !!set \x7ba: null\x7d\n  summary: s\n"
    (∃ document items, Reads (some content.toUTF8) (.ok document) ∧ Lists document items ∧
      ∃ item ∈ items, ∃ fields members, document.resolve item = .mapping fields ∧
        Value.field? fields "aliases" = some (.set members)) ∧
    (Desk.fresh.knowledgeBase "config" (some content.toUTF8)).answer = .ok [⟨"kv", "KV", ["a"], "s", [], []⟩] := by
  intro content
  constructor
  · obtain ⟨document, items, hreads, hitems, htest⟩ := exists_lists_of_test content
      (fun document items ↦ items.any fun item ↦ (document.resolve item).entries?.any fun fields ↦
        (Value.field? fields "aliases").any fun value ↦ value.set?.isSome)
      (by decide +kernel)
    obtain ⟨item, hitem, hfields⟩ := List.any_eq_true.mp htest
    obtain ⟨fields, hmapping, haliases⟩ := (Option.any_eq_true _ _).mp hfields
    obtain ⟨value, hvalue, hset⟩ := (Option.any_eq_true _ _).mp haliases
    obtain ⟨members, hmembers⟩ := Option.isSome_iff_exists.mp hset
    obtain rfl := Value.set?_eq_some_iff.mp hmembers
    exact ⟨document, items, hreads, hitems, item, hitem, fields, members, Value.entries?_eq_some_iff.mp hmapping,
      hvalue⟩
  · rw [knowledgeBase_eq_ok_iff]
    exact KnowledgeBase.load_of_toOption (by decide +kernel)

end WorkerAdvisor.Concept
