import Mathlib.Data.List.Forall2
import WorkerAdvisor.Field

/-!
What the checks of fields accept, and what they find.

Each check has two lemmas: when it passes, and with what (`…_eq_ok_iff`), and what it finds otherwise (`errors_…`). The
faults of a list are those of its members, in their order and each at the position of its member (`membersFaults`).
-/

set_option autoImplicit false

namespace WorkerAdvisor

/-! ### Readings -/

namespace Value

/-- The text that a value is, or that it encodes if it is bytes. -/
def text? : Value → Option String
  | text content => some content
  | bytes content => String.fromUTF8? ⟨content.toArray⟩
  | _ => none

def entries? : Value → Option (List (String × Value))
  | mapping entries => some entries
  | _ => none

def items? : Value → Option (List Value)
  | list items => some items
  | _ => none

def set? : Value → Option (List Value)
  | set members => some members
  | _ => none

/-- The items of a list, or the members of a set. -/
def members? : Value → Option (List Value)
  | list members | set members => some members
  | _ => none

theorem entries?_eq_some_iff {value : Value} {entries : List (String × Value)} :
    value.entries? = some entries ↔ value = mapping entries := by
  cases value <;> simp [entries?]

theorem items?_eq_some_iff {value : Value} {items : List Value} : value.items? = some items ↔ value = list items := by
  cases value <;> simp [items?]

theorem set?_eq_some_iff {value : Value} {members : List Value} : value.set? = some members ↔ value = set members := by
  cases value <;> simp [set?]

end Value

/-- Each of some values is related to something exactly if some list is related to them, item by item. -/
theorem exists_forall₂_iff {α β : Type} {related : α → β → Prop} {values : List α} :
    (∃ images, List.Forall₂ related values images) ↔ ∀ value ∈ values, ∃ image, related value image := by
  induction values with
  | nil => simp
  | cons value values ih =>
    rw [List.forall_mem_cons, ← ih]
    constructor
    · rintro ⟨images, himages⟩
      cases himages with
      | cons hfirst hothers => exact ⟨⟨_, hfirst⟩, ⟨_, hothers⟩⟩
    · rintro ⟨⟨image, hfirst⟩, ⟨images, hothers⟩⟩
      exact ⟨image :: images, .cons hfirst hothers⟩

@[simp] theorem Checked.errors_ok {α : Type} (a : α) : Checked.errors (.ok a) = [] := rfl

@[simp] theorem Checked.errors_error {α : Type} (found : List FieldError) :
    Checked.errors (.error found : Checked α) = found := rfl

namespace Field

/-! ### Texts -/

def textFaults (place : List FieldStep) (value : Value) : List FieldError :=
  match value.text? with
  | some _ => []
  | none =>
    match value with
    | .bytes _ => [⟨place, .undecodableText⟩]
    | _ => [⟨place, .notText⟩]

/-- The check of a text passes exactly if the value can be read as one. -/
theorem text_eq_ok_iff {place : List FieldStep} {value : Value} {content : String} :
    text place value = .ok content ↔ value.text? = some content := by
  cases value with
  | bytes content =>
    simp only [text, Value.text?]
    cases String.fromUTF8? ⟨content.toArray⟩ <;> simp
  | _ => simp [text, Value.text?]

/-- What the check of a text finds are the faults of the value. -/
theorem errors_text (place : List FieldStep) (value : Value) : (text place value).errors = textFaults place value := by
  cases value with
  | bytes content =>
    simp only [text, textFaults, Value.text?]
    cases String.fromUTF8? ⟨content.toArray⟩ <;> rfl
  | _ => rfl

theorem textFaults_eq_nil_iff {place : List FieldStep} {value : Value} :
    textFaults place value = [] ↔ ∃ content, value.text? = some content := by
  unfold textFaults
  split
  · rename_i content hcontent
    simp [hcontent]
  · rename_i hnone
    split <;> simp [hnone]

/-! ### Lists of texts -/

/-- The faults of members numbered from `index` that should be texts. -/
def membersFaults (place : List FieldStep) (index : Nat) (members : List Value) : List FieldError :=
  (members.zipIdx index).flatMap fun (member, position) ↦ textFaults (place ++ [.position position]) member

def textsFaults (place : List FieldStep) (value : Value) : List FieldError :=
  match value.members? with
  | none => [⟨place, .notList⟩]
  | some members => membersFaults place 0 members

theorem membersFaults_cons (place : List FieldStep) (index : Nat) (member : Value) (members : List Value) :
    membersFaults place index (member :: members) =
      textFaults (place ++ [.position index]) member ++ membersFaults place (index + 1) members := by
  rw [membersFaults, List.zipIdx_cons, List.flatMap_cons, membersFaults]

/-- Members have no faults exactly if each can be read as a text. -/
theorem membersFaults_eq_nil_iff {place : List FieldStep} {index : Nat} {members : List Value} :
    membersFaults place index members = [] ↔ ∀ member ∈ members, ∃ content, member.text? = some content := by
  induction members generalizing index with
  | nil => simp [membersFaults]
  | cons member members ih =>
    rw [membersFaults_cons, List.append_eq_nil_iff, textFaults_eq_nil_iff, ih, List.forall_mem_cons]

/-- A value has no faults as a list of texts exactly if it has members and each can be read as a text. -/
theorem textsFaults_eq_nil_iff {place : List FieldStep} {value : Value} :
    textsFaults place value = [] ↔ ∃ members, value.members? = some members ∧
      ∀ member ∈ members, ∃ content, member.text? = some content := by
  unfold textsFaults
  cases value.members? <;> simp [membersFaults_eq_nil_iff]

/-- The check of members passes with their texts, one for each in the same order. -/
theorem textItems_eq_ok_iff {place : List FieldStep} {index : Nat} {members : List Value} {contents : List String} :
    textItems place index members = .ok contents ↔
      List.Forall₂ (fun member content ↦ member.text? = some content) members contents := by
  induction members generalizing index contents with
  | nil => simp [textItems, eq_comm]
  | cons member members ih =>
    rw [textItems]
    constructor
    · intro hok
      split at hok
      · rename_i first others hfirst hothers
        cases hok
        exact .cons (text_eq_ok_iff.mp hfirst) (ih.mp hothers)
      · cases hok
    · rintro (_ | ⟨hfirst, hothers⟩)
      rw [text_eq_ok_iff.mpr hfirst, ih.mpr hothers]

/-- The check of members finds the faults of all of them, also behind a member with a fault. -/
theorem errors_textItems (place : List FieldStep) (index : Nat) (members : List Value) :
    (textItems place index members).errors = membersFaults place index members := by
  induction members generalizing index with
  | nil => rfl
  | cons member members ih =>
    rw [membersFaults_cons, ← errors_text, ← ih, textItems]
    split
    · rename_i first others hfirst hothers
      rw [hfirst, hothers]
      rfl
    · rfl

/-- The check of a list passes with the texts of its members. -/
theorem texts_eq_ok_iff {place : List FieldStep} {value : Value} {contents : List String} :
    texts place value = .ok contents ↔ ∃ members, value.members? = some members ∧
      List.Forall₂ (fun member content ↦ member.text? = some content) members contents := by
  cases value <;> simp [texts, Value.members?, textItems_eq_ok_iff]

theorem errors_texts (place : List FieldStep) (value : Value) :
    (texts place value).errors = textsFaults place value := by
  cases value <;> simp [texts, textsFaults, Value.members?, errors_textItems]

/-! ### Required and optional fields -/

section Fields

variable {α : Type} {entries : List (String × Value)} {name : String} {check : List FieldStep → Value → Checked α}

/-- A required field passes exactly if it is there and its value passes. -/
theorem required_eq_ok_iff {a : α} :
    required entries name check = .ok a ↔
      ∃ value, Value.field? entries name = some value ∧ check [.name name] value = .ok a := by
  unfold required
  cases Value.field? entries name <;> simp

/-- A required field that is not there has the one fault that it is missing. -/
theorem errors_required :
    (required entries name check).errors = match Value.field? entries name with
      | none => [⟨[.name name], .missing⟩]
      | some value => (check [.name name] value).errors := by
  unfold required
  cases Value.field? entries name <;> rfl

/-- An optional field passes with its default if it is not there. -/
theorem optional_eq_ok_iff {absent a : α} :
    optional entries name absent check = .ok a ↔
      match Value.field? entries name with
      | none => a = absent
      | some value => check [.name name] value = .ok a := by
  unfold optional
  cases Value.field? entries name <;> simp [eq_comm]

/-- An optional field that is not there has no faults. -/
theorem errors_optional {absent : α} :
    (optional entries name absent check).errors = match Value.field? entries name with
      | none => []
      | some value => (check [.name name] value).errors := by
  unfold optional
  cases Value.field? entries name <;> rfl

end Fields

end Field

end WorkerAdvisor
