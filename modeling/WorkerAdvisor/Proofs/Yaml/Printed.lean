import WorkerAdvisor.Proofs.Yaml.ListingTokens
import WorkerAdvisor.Yaml.Load

/-!
The characters that are written.

Whatever the texts of a listing are, only characters that a document may hold are written, and no carriage return is
among them (`all_isPrinted_print`): every other character is escaped. So the text is read as it was written.
-/

set_option autoImplicit false

namespace WorkerAdvisor.Yaml

/-- Whether a character may stand in a document and is read as it is. -/
def isPrinted (c : Char) : Bool := isAllowed c && c != '\r'

theorem isPrinted_of_printable {c : Char} (hprintable : (' ' ≤ c && c ≤ '~') = true) : isPrinted c = true := by
  have hreturn : c ≠ '\r' := by
    rintro rfl
    revert hprintable
    decide
  simp [isPrinted, isAllowed, hprintable, hreturn]

/-- What can stand outside double quotes is printed. -/
theorem isPrinted_of_not_isSpecial {c : Char} (hspecial : ScalarStyle.isSpecial c = false) : isPrinted c = true := by
  have hreturn : c ≠ '\r' := ne_of_class ScalarStyle.isSpecial hspecial (by decide)
  simp only [ScalarStyle.isSpecial, Bool.not_eq_false', Bool.or_eq_true, Bool.and_eq_true, beq_iff_eq,
    decide_eq_true_eq] at hspecial
  simp only [isPrinted, isAllowed, Bool.and_eq_true, Bool.or_eq_true, beq_iff_eq, decide_eq_true_eq, bne_iff_ne]
  refine ⟨?_, hreturn⟩
  rcases hspecial with (hfeed | hprintable) | ⟨-, (hnext | hwide) | ⟨hbeyond, -⟩⟩
  · simp [hfeed]
  · simp [hprintable]
  · simp [hnext]
  · simp [hwide]
  · simp [hbeyond]

/-- What stands in double quotes without an escape is printed. -/
theorem isPrinted_of_not_isEscaped {c : Char} (hescaped : ScalarStyle.isEscaped c = false) : isPrinted c = true := by
  have hreturn : c ≠ '\r' := ne_of_class ScalarStyle.isEscaped hescaped (by decide)
  simp only [ScalarStyle.isEscaped, Bool.or_eq_false_iff, Bool.not_eq_false', Bool.or_eq_true] at hescaped
  rcases hescaped.2 with hprintable | hwide
  · exact isPrinted_of_printable hprintable
  · simp [isPrinted, isAllowed, hwide, hreturn]

theorem isPrinted_of_isNameLetter {c : Char} (hletter : Reading.isNameLetter c = true) : isPrinted c = true := by
  refine isPrinted_of_printable ?_
  have halpha : c.isAlpha = (decide (c.val ≥ 'A'.val ∧ c.val ≤ 'Z'.val) || (c.val ≥ 'a'.val && c.val ≤ 'z'.val)) := rfl
  simp only [Reading.isNameLetter, halpha, Bool.or_eq_true, Bool.and_eq_true, decide_eq_true_eq, beq_iff_eq, ge_iff_le,
    UInt32.le_iff_toNat_le] at hletter
  simp only [Bool.and_eq_true, decide_eq_true_eq, Char.le_def, UInt32.le_iff_toNat_le]
  rcases hletter with (⟨hlow, hhigh⟩ | ⟨hlow, hhigh⟩) | rfl
  · exact ⟨Nat.le_trans (by decide) hlow, Nat.le_trans hhigh (by decide)⟩
  · exact ⟨Nat.le_trans (by decide) hlow, Nat.le_trans hhigh (by decide)⟩
  · decide

namespace ScalarStyle

/-! ### Scalars -/

theorem all_isPrinted_newLine : newLine.all isPrinted = true := by decide

/-- A plain scalar of printed characters is printed, and so are the line ends that are put in. -/
theorem all_isPrinted_plainFrom (column : Nat) (mayFold : Bool) {cs : List Char}
    (hprinted : cs.all isPrinted = true) : (plainFrom column mayFold cs).all isPrinted = true := by
  induction cs generalizing column mayFold with
  | nil => rfl
  | cons c rest ih =>
    simp only [List.all_cons, Bool.and_eq_true] at hprinted
    unfold plainFrom
    split
    · split
      · simp [all_isPrinted_newLine, ih _ _ hprinted.2]
      · simp [isPrinted_of_printable, ih _ _ hprinted.2]
    · simp [hprinted.1, ih _ _ hprinted.2]

theorem all_isPrinted_singleFrom (column : Nat) (mayFold afterBreak : Bool) {cs : List Char}
    (hprinted : cs.all isPrinted = true) : (singleFrom column mayFold afterBreak cs).all isPrinted = true := by
  have hspaces : (List.replicate indent ' ').all isPrinted = true := by decide
  induction cs generalizing column mayFold afterBreak with
  | nil => rfl
  | cons c rest ih =>
    simp only [List.all_cons, Bool.and_eq_true] at hprinted
    have hrest := fun column mayFold afterBreak ↦ ih column mayFold afterBreak hprinted.2
    unfold singleFrom
    split
    · split
      · simp [all_isPrinted_newLine, hrest]
      · simp [isPrinted_of_printable, hrest]
    · split
      · have hdoubled : (if c = '\n' ∧ !afterBreak then ['\n', '\n'] else [c]).all isPrinted = true := by
          split
          · decide
          · simp [hprinted.1]
        have hnext : (if rest.head?.any isBreak then [] else List.replicate indent ' ').all isPrinted = true := by
          split
          · rfl
          · exact hspaces
        simp only [List.all_append, hdoubled, hnext, hrest, Bool.and_self]
      · split
        · simp [isPrinted_of_printable, hrest]
        · simp [hprinted.1, hrest]

theorem all_isPrinted_capitalDigits (width n : Nat) : (capitalDigits width n).all isPrinted = true := by
  have hdigits : ∀ digit, digit < 16 → isPrinted (Text.hexDigit digit).toUpper = true := by decide
  induction width generalizing n with
  | zero => rfl
  | succ width ih =>
    have hlast := hdigits (n % 16) (Nat.mod_lt n (by decide))
    simp only [capitalDigits, List.all_map] at ih
    simp [capitalDigits, Text.hexDigits, ih, hlast]

/-- An escape is printed, whatever it stands for. -/
theorem all_isPrinted_escape (c : Char) : (escape c).all isPrinted = true := by
  have hmarks : isPrinted '\\' = true ∧ isPrinted 'x' = true ∧ isPrinted 'u' = true ∧ isPrinted 'U' = true := by decide
  unfold escape
  cases hletter : escapeLetter? c with
  | some letter =>
    have hprinted : isPrinted letter = true := of_escapeLetter? (fun pair ↦ isPrinted pair.2 = true) (by decide) hletter
    simp [hmarks, hprinted]
  | none =>
    simp only
    split
    · simp [hmarks, all_isPrinted_capitalDigits]
    · split <;> simp [hmarks, all_isPrinted_capitalDigits]

/-- A scalar in double quotes is printed, whatever its text. -/
theorem all_isPrinted_doubleFrom (column : Nat) (first afterEscape : Bool) (cs : List Char) :
    (doubleFrom column first afterEscape cs).all isPrinted = true := by
  have hslash : isPrinted '\\' = true := by decide
  have hguard : ∀ holds : Prop, [Decidable holds] → (if holds then ['\\'] else []).all isPrinted = true := by
    intro holds _
    split
    · decide
    · rfl
  induction cs generalizing column first afterEscape with
  | nil => rfl
  | cons c rest ih =>
    unfold doubleFrom
    simp only
    split
    · split
      · simp [all_isPrinted_escape, all_isPrinted_newLine, hslash, hguard, ih]
      · simp [all_isPrinted_escape, ih]
    · rename_i hescaped
      have hprinted := isPrinted_of_not_isEscaped (by simpa using hescaped)
      split
      · simp [all_isPrinted_newLine, hslash, hguard, hprinted, ih]
      · simp [hprinted, ih]

/-- A scalar is written with characters that a document may hold. -/
theorem all_isPrinted_print (column : Nat) (cs : List Char) : (ScalarStyle.print column cs).all isPrinted = true := by
  have hquotes : isPrinted '\'' = true ∧ isPrinted '"' = true := by decide
  have hspecial : fitsSingle cs = true → cs.all isPrinted = true := by
    intro hfits
    simp only [fitsSingle, Bool.and_eq_true, Bool.not_eq_true'] at hfits
    exact List.all_eq_true.mpr fun c hc ↦
      isPrinted_of_not_isSpecial (by simpa using List.any_eq_false.mp hfits.1.1 c hc)
  unfold ScalarStyle.print
  cases hstyle : choose cs with
  | plain =>
    have hfits := fitsPlain_of_choose hstyle
    simp only [fitsPlain, Bool.and_eq_true] at hfits
    exact all_isPrinted_plainFrom column false (hspecial hfits.1.1.1.1)
  | single => simp [hquotes, all_isPrinted_singleFrom _ _ _ (hspecial (fitsSingle_of_choose hstyle))]
  | double => simp [hquotes, all_isPrinted_doubleFrom]

end ScalarStyle

/-! ### Listings -/

namespace Listing

theorem all_isPrinted_name {name : String} (hname : Reading.IsName name) : name.toList.all isPrinted = true :=
  List.all_eq_true.mpr fun c hc ↦ isPrinted_of_isNameLetter (List.all_eq_true.mp hname.letters c hc)

/-- A scalar is printed in each style. -/
theorem all_isPrinted_scalarLine (column : Nat) (content : String) :
    (scalarLine column content).all isPrinted = true := by
  have hmarks : isPrinted ' ' = true ∧ isPrinted '\n' = true := by decide
  simp [scalarLine, ScalarStyle.all_isPrinted_print, hmarks]

theorem all_isPrinted_valueText (column : Nat) (value : FieldValue) :
    (valueText column value).all isPrinted = true := by
  have hmarks : isPrinted ' ' = true ∧ isPrinted '-' = true ∧ isPrinted '\n' = true := by decide
  match value with
  | .text content => exact all_isPrinted_scalarLine column content
  | .texts [] => exact (by decide : emptyList.all isPrinted = true)
  | .texts (content :: contents) =>
    have hitems : ((content :: contents).flatMap itemText).all isPrinted = true := by
      rw [List.all_flatMap]
      exact List.all_eq_true.mpr fun content _ ↦ by simp [itemText, hmarks, all_isPrinted_scalarLine]
    simp only [valueText, List.all_cons, hitems, hmarks, Bool.and_self]

theorem all_isPrinted_field {name : String} (hname : Reading.IsName name) (value : FieldValue) :
    (field name value).all isPrinted = true := by
  have hcolon : isPrinted ':' = true := by decide
  simp [field_eq, all_isPrinted_name hname, hcolon, all_isPrinted_valueText]

theorem all_isPrinted_record {fields : Record} (hnames : ∀ field ∈ fields, Reading.IsName field.1) :
    (record fields).all isPrinted = true := by
  have hmarks : isPrinted ' ' = true ∧ isPrinted '-' = true := by decide
  cases fields with
  | nil => decide
  | cons pair fields =>
    obtain ⟨hname, hothers⟩ := List.forall_mem_cons.mp hnames
    have hlines : (fields.flatMap fieldLine).all isPrinted = true := by
      rw [List.all_flatMap]
      exact List.all_eq_true.mpr fun field hfield ↦ by
        simp [fieldLine, hmarks, all_isPrinted_field (hothers field hfield)]
    simp [record_cons, hmarks, all_isPrinted_field hname, hlines]

/-- The text of a listing has only characters that a document may hold, and no carriage return. -/
theorem all_isPrinted_print (listing : Listing) (hnamed : listing.IsNamed) :
    listing.print.toList.all isPrinted = true := by
  have hmarks : isPrinted ':' = true ∧ isPrinted '\n' = true := by decide
  have hempty : emptyList.all isPrinted = true := by decide
  have hrecords : (listing.records.flatMap record).all isPrinted = true := by
    rw [List.all_flatMap]
    exact List.all_eq_true.mpr fun fields hfields ↦ all_isPrinted_record (hnamed.records fields hfields).2
  rw [print_toList]
  split <;> simp [all_isPrinted_name hnamed.name, hmarks, hempty, hrecords]

end Listing

/-! ### Reading as written -/

/-- Printed characters have no carriage returns among them. -/
theorem unifyLineEnds_of_isPrinted {cs : List Char} (hprinted : cs.all isPrinted = true) : unifyLineEnds cs = cs := by
  induction cs with
  | nil => rfl
  | cons c rest ih =>
    simp only [List.all_cons, Bool.and_eq_true] at hprinted
    have hreturn : c ≠ '\r' := (ne_of_class isPrinted (by decide) hprinted.1).symm
    rw [unifyLineEnds]
    · rw [ih hprinted.2]
    all_goals simp [hreturn]

/-- Printed characters may stand in a text that is read. -/
theorem isAllowed_of_isPrinted {cs : List Char} (hprinted : cs.all isPrinted = true) : cs.all isAllowed = true := by
  apply List.all_eq_true.mpr
  intro c hc
  have hc := List.all_eq_true.mp hprinted c hc
  simp only [isPrinted, Bool.and_eq_true] at hc
  exact hc.1

end WorkerAdvisor.Yaml
