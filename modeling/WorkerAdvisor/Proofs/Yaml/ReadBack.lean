import WorkerAdvisor.Proofs.Yaml.ListingLoad

/-!
Listings that are read back as they are.

The value of a listing says all that is in the listing (`value_inj`). So the text of a listing is loaded as the value of
the listing exactly if none of its texts is lost (`load_print_iff`).
-/

set_option autoImplicit false

namespace WorkerAdvisor.Yaml

theorem map_eq_self_iff {α : Type} {f : α → α} {items : List α} :
    items.map f = items ↔ ∀ item ∈ items, f item = item := by
  induction items with
  | nil => simp
  | cons item items ih => simp [ih]

namespace Listing

def valueTexts : FieldValue → List String
  | .text content => [content]
  | .texts contents => contents

def recordTexts (fields : Record) : List String := fields.flatMap fun field ↦ valueTexts field.2

/-- The texts of a listing. -/
def texts (listing : Listing) : List String := listing.records.flatMap recordTexts

/-- A value is read back as it is exactly if none of its texts is lost. -/
theorem rereadValue_eq_iff (value : FieldValue) :
    rereadValue value = value ↔ ∀ content ∈ valueTexts value, ¬ IsLost content := by
  cases value with
  | text content => simp [rereadValue, valueTexts, reread_eq_iff]
  | texts contents => simp [rereadValue, valueTexts, reread_eq_iff, map_eq_self_iff]

/-- A record is read back as it is exactly if none of its texts is lost. -/
theorem rereadRecord_eq_iff (fields : Record) :
    (fields.map fun (name, value) ↦ (name, rereadValue value)) = fields ↔
      ∀ content ∈ recordTexts fields, ¬ IsLost content := by
  simp only [map_eq_self_iff, Prod.ext_iff, true_and, rereadValue_eq_iff, recordTexts, List.mem_flatMap]
  constructor
  · rintro hfields content ⟨field, hfield, hcontent⟩
    exact hfields field hfield content hcontent
  · intro htexts field hfield content hcontent
    exact htexts content ⟨field, hfield, hcontent⟩

/-- A listing is its own rereading exactly if none of its texts is lost. -/
theorem reread_eq_self_iff (listing : Listing) :
    listing.reread = listing ↔ ∀ content ∈ listing.texts, ¬ IsLost content := by
  obtain ⟨name, records⟩ := listing
  simp only [reread, Listing.mk.injEq, true_and]
  rw [map_eq_self_iff]
  simp only [rereadRecord_eq_iff, texts, List.mem_flatMap]
  constructor
  · rintro hrecords content ⟨fields, hfields, hcontent⟩
    exact hrecords fields hfields content hcontent
  · intro htexts fields hfields content hcontent
    exact htexts content ⟨fields, hfields, hcontent⟩

/-! ### Values -/

/-- A value can be told from the data that it is listed as. -/
theorem fieldValue_injective : Function.Injective fieldValue := by
  intro first second heq
  cases first with
  | text content => cases second <;> simp_all [fieldValue]
  | texts contents =>
    cases second with
    | text other => simp [fieldValue] at heq
    | texts others =>
      have htext : Function.Injective Value.text := fun _ _ htext ↦ Value.text.inj htext
      rw [List.map_injective_iff.mpr htext (Value.list.inj heq)]

/-- The value of a listing says all that is in it. -/
theorem value_inj {first second : Listing} : first.value = second.value ↔ first = second := by
  refine ⟨fun heq ↦ ?_, congrArg value⟩
  have hfield : Function.Injective fun field : String × FieldValue ↦ (field.1, fieldValue field.2) :=
    fun field other heq ↦ Prod.ext (Prod.ext_iff.mp heq).1 (fieldValue_injective (Prod.ext_iff.mp heq).2)
  have hrecord : Function.Injective recordValue := fun _ _ heq ↦
    List.map_injective_iff.mpr hfield (Value.mapping.inj heq)
  rw [value_eq, value_eq] at heq
  obtain ⟨hname, hrecords⟩ := Prod.ext_iff.mp (List.head_eq_of_cons_eq (Value.mapping.inj heq))
  obtain ⟨firstName, firstRecords⟩ := first
  obtain ⟨secondName, secondRecords⟩ := second
  exact congrArg₂ Listing.mk hname (List.map_injective_iff.mpr hrecord (Value.list.inj hrecords))

/-- The text of a listing is loaded as the value of the listing exactly if none of its texts is lost.
Assumes: the names in the listing are written plainly, and no record is without fields. -/
theorem load_print_iff (listing : Listing) (hnamed : listing.IsNamed) :
    load listing.print.toList = .ok ⟨listing.value, []⟩ ↔ ∀ content ∈ listing.texts, ¬ IsLost content := by
  rw [load_print listing hnamed, ← reread_eq_self_iff, ← value_inj]
  exact ⟨fun heq ↦ (Document.mk.inj (Except.ok.inj heq)).1, fun heq ↦ by rw [heq]⟩

end Listing

end WorkerAdvisor.Yaml
