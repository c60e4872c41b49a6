import WorkerAdvisor.Proofs.Yaml.ScalarTokens
import WorkerAdvisor.Yaml.Listing

/-!
The tokens of a listing.

The text of a listing is read line by line. At the start of each line the open collections are known: the mapping of
the whole listing at column 0 and, between the fields of a record, its mapping at column 2. From one line to the
next a state finishes with what the state after the line finishes with, so the tokens of the text are the tokens of its
parts, one after the other (`ofGlyphs_print`).
-/

set_option autoImplicit false

namespace WorkerAdvisor.Yaml

open Reading ScalarStyle

/-! ### The tokens -/

namespace Listing

def itemTokens (content : String) : List Token := [.blockEntry, scalarToken content]

def valueTokens : FieldValue → List Token
  | .text content => [scalarToken content]
  | .texts [] => [.flowSequenceStart, .flowSequenceEnd]
  | .texts contents => contents.flatMap itemTokens

def fieldTokens (field : String × FieldValue) : List Token :=
  .key :: .scalar field.1 true :: .value :: valueTokens field.2

def recordTokens (fields : Record) : List Token :=
  .blockEntry :: .blockMappingStart :: (fields.flatMap fieldTokens ++ [.blockEnd])

/-- The tokens of a listing. -/
def tokens (listing : Listing) : List Token :=
  .blockMappingStart :: .key :: .scalar listing.name true :: .value ::
    ((if listing.records.isEmpty then [.flowSequenceStart, .flowSequenceEnd]
      else listing.records.flatMap recordTokens) ++ [.blockEnd])

/-- Whether the names in a listing are written plainly, and no record is without fields. -/
structure IsNamed (listing : Listing) : Prop where
  name : IsName listing.name
  records : ∀ fields ∈ listing.records, fields ≠ [] ∧ ∀ field ∈ fields, IsName field.1

/-- An item of a list, on a line of its own. -/
def itemText (content : String) : List Char := ' ' :: ' ' :: '-' :: scalarLine 3 content

/-- What is written after the colon of a field whose colon is before a column. -/
def valueText (column : Nat) : FieldValue → List Char
  | .text content => scalarLine column content
  | .texts [] => emptyList
  | .texts contents => '\n' :: contents.flatMap itemText

/-- A field of a record after the first, with the space before it. -/
def fieldLine (pair : String × FieldValue) : List Char := ' ' :: ' ' :: field pair.1 pair.2

/-- The first field of a record stands behind the hyphen, and each of the others in a line of its own. -/
theorem record_cons (pair : String × FieldValue) (fields : Record) :
    record (pair :: fields) = '-' :: ' ' :: (field pair.1 pair.2 ++ fields.flatMap fieldLine) := rfl

theorem field_eq (name : String) (value : FieldValue) :
    field name value = name.toList ++ ':' :: valueText (3 + name.length) value := by
  match value with
  | .text _ => rfl
  | .texts [] => rfl
  | .texts (_ :: _) => rfl

end Listing

/-! ### Lines -/

theorem column_after_newLine (p : Place) (cs : List Char) : (p.after (cs ++ ['\n'])).column = 0 := by
  rw [Place.after_append]
  rfl

namespace Reading

variable {p : Place} {tail : List Char} {tokens finished : List Token}

open Listing

/-- A scalar after a mark is read up to the next line. -/
theorem Finishes.scalarLine {content : String} {column printColumn : Nat} {outer : List Nat} {keyAllowed : Bool}
    (hdeeper : column ≤ p.column) (hindent : column < indent) (htail : Dedents (column + 1) tail)
    (hrest : (outside (p.after (Listing.scalarLine printColumn content)) tail (scalarToken content :: tokens)
      (column :: outer) true).Finishes finished) :
    (outside p (Listing.scalarLine printColumn content ++ tail) tokens (column :: outer) keyAllowed).Finishes
      finished := by
  have hcolumn : column < (p.next ' ').column := Nat.lt_succ_of_le hdeeper
  have hscalar : (outside (p.next ' ') (ScalarStyle.print (printColumn + 1) content.toList ++ '\n' :: tail) tokens
      (column :: outer) keyAllowed).Finishes finished :=
    hrest.scalar (printColumn + 1) hcolumn hindent htail
  simpa [Listing.scalarLine] using hscalar.space

/-- A scalar ends its line. -/
theorem column_after_scalarLine (p : Place) (column : Nat) (content : String) :
    (p.after (Listing.scalarLine column content)).column = 0 :=
  column_after_newLine p (' ' :: ScalarStyle.print (column + 1) content.toList)

theorem column_after_two (p : Place) (hstart : p.column = 0) : ((p.next ' ').next ' ').column = 2 := by
  simp [Place.next, isBreak, byteOrderMark, hstart]

/-- Items are indented by two columns, and so end a scalar that stands before them. -/
theorem dedents_items (contents : List String) (htail : Dedents 3 tail) :
    Dedents 3 (contents.flatMap itemText ++ tail) := by
  cases contents with
  | nil => exact htail
  | cons content contents =>
    exact .inr ⟨2, '-', _, rfl, by decide, rfl, by decide, fun heq ↦ absurd heq (by decide)⟩

/-- The items of a list in the mapping of a record are read, one on each line. -/
theorem Finishes.items {outer : List Nat} (contents : List String) (hstart : p.column = 0) (htail : Dedents 3 tail)
    (hrest : (outside (p.after (contents.flatMap itemText)) tail ((contents.flatMap itemTokens).reverse ++ tokens)
      (2 :: outer) true).Finishes finished) :
    (outside p (contents.flatMap itemText ++ tail) tokens (2 :: outer) true).Finishes finished := by
  induction contents generalizing p tokens with
  | nil => exact hrest
  | cons content contents ih =>
    have hcolumn := column_after_two p hstart
    have hothers : (outside ((((p.next ' ').next ' ').next '-').after (Listing.scalarLine 3 content))
        (contents.flatMap itemText ++ tail) (scalarToken content :: .blockEntry :: tokens) (2 :: outer)
        true).Finishes finished :=
      ih (column_after_scalarLine ..) (by simpa [itemText, itemTokens] using hrest)
    have hdeeper : 2 ≤ (((p.next ' ').next ' ').next '-').column := by
      simp [Place.next, isBreak, byteOrderMark]
    have hscalar : (outside (((p.next ' ').next ' ').next '-') (Listing.scalarLine 3 content ++
        (contents.flatMap itemText ++ tail)) (.blockEntry :: tokens) (2 :: outer) true).Finishes finished :=
      hothers.scalarLine hdeeper (by decide) (dedents_items contents htail)
    have hentry := hscalar.entry hcolumn rfl
    simpa [itemText] using hentry.space.space

/-- The value of a field of a record is read up to the line after it. -/
theorem Finishes.value {outer : List Nat} {column : Nat} (value : FieldValue) (hdeeper : 2 ≤ p.column)
    (htail : Dedents 3 tail)
    (hrest : (outside (p.after (valueText column value)) tail ((valueTokens value).reverse ++ tokens)
      (2 :: outer) true).Finishes finished) :
    (outside p (valueText column value ++ tail) tokens (2 :: outer) false).Finishes finished := by
  match value with
  | .text content => exact hrest.scalarLine hdeeper (by decide) htail
  | .texts [] =>
    have hempty : Listing.emptyList = [' ', '[', ']', '\n'] := rfl
    have hdepth : ∀ column ∈ (2 :: outer).head?, column ≤ (p.next ' ').column := by
      simpa [Place.next, isBreak, byteOrderMark] using Nat.le_succ_of_le hdeeper
    have hnewLine : (outside (((p.next ' ').next '[').next ']') ('\n' :: tail) (.flowSequenceEnd ::
        .flowSequenceStart :: tokens) (2 :: outer) false).Finishes finished :=
      Finishes.newLine (by simpa [valueText, hempty, valueTokens] using hrest)
    simpa [valueText, hempty] using (hnewLine.emptyList hdepth).space
  | .texts (content :: contents) =>
    exact Finishes.newLine (hrest.items (content :: contents) rfl htail)

/-! ### Records -/

theorem dedents_fields (fields : Record) (hnames : ∀ field ∈ fields, IsName field.1) (htail : Dedents 3 tail) :
    Dedents 3 (fields.flatMap fieldLine ++ tail) := by
  cases fields with
  | nil => exact htail
  | cons pair fields =>
    have hname := hnames pair List.mem_cons_self
    obtain ⟨c, cs, hcs⟩ := List.exists_cons_of_ne_nil hname.nonempty
    have hletter : isNameLetter c = true := List.all_eq_true.mp hname.letters c (by simp [hcs])
    refine .inr ⟨2, c, cs ++ ':' :: valueText (3 + pair.1.length) pair.2 ++
      (fields.flatMap fieldLine ++ tail), ?_, by decide,
      isGap_of_isNameLetter hletter, isNameLetter_ne hletter rfl, fun heq ↦ absurd heq (by decide)⟩
    simp [fieldLine, field_eq, hcs]

/-- Behind its colon a value begins with a space or a line end. -/
theorem head_valueText (column : Nat) (value : FieldValue) (tail : List Char) :
    (valueText column value ++ tail).head?.all isGap = true := by
  match value with
  | .text _ => rfl
  | .texts [] => rfl
  | .texts (_ :: _) => rfl

theorem column_after_items (contents : List String) (hstart : p.column = 0) :
    (p.after (contents.flatMap itemText)).column = 0 := by
  induction contents generalizing p with
  | nil => exact hstart
  | cons content contents ih =>
    rw [List.flatMap_cons, Place.after_append]
    exact ih (column_after_scalarLine ..)

/-- The line after the value of a field begins at column 0. -/
theorem column_after_valueText (p : Place) (column : Nat) (value : FieldValue) :
    (p.after (valueText column value)).column = 0 := by
  match value with
  | .text content => exact column_after_scalarLine p column content
  | .texts [] => rfl
  | .texts (content :: contents) => exact column_after_items (p := p.next '\n') (content :: contents) rfl

theorem column_le_after_name {name : String} (hname : IsName name) (p : Place) :
    p.column ≤ (p.after (name.toList ++ [':'])).column := by
  rw [Place.after_of_narrow p fun c hc ↦ ?_]
  · exact Nat.le_add_right ..
  · rw [List.mem_append, List.mem_singleton] at hc
    rcases hc with hc | rfl
    · exact narrow_of_isNameLetter (List.all_eq_true.mp hname.letters c hc)
    · exact ⟨rfl, by decide⟩

/-- The fields of a record after the first are read. -/
theorem Finishes.fields {outer : List Nat} (fields : Record) (hnames : ∀ field ∈ fields, IsName field.1)
    (hstart : p.column = 0) (htail : Dedents 3 tail)
    (hrest : (outside (p.after (fields.flatMap fieldLine)) tail
      ((fields.flatMap fieldTokens).reverse ++ tokens) (2 :: outer) true).Finishes finished) :
    (outside p (fields.flatMap fieldLine ++ tail) tokens (2 :: outer)
      true).Finishes finished := by
  induction fields generalizing p tokens with
  | nil => exact hrest
  | cons pair fields ih =>
    obtain ⟨name, value⟩ := pair
    obtain ⟨hname, hothers⟩ := List.forall_mem_cons.mp hnames
    have hcolumn := column_after_two p hstart
    have hfields : (outside ((((p.next ' ').next ' ').after (name.toList ++ [':'])).after
        (valueText (3 + name.length) value)) (fields.flatMap fieldLine ++ tail) ((valueTokens value).reverse ++ .value ::
        .scalar name true :: .key :: tokens) (2 :: outer) true).Finishes finished :=
      ih hothers (column_after_valueText ..) (by simpa [fieldLine, field_eq, fieldTokens] using hrest)
    have hvalue := hfields.value value (hcolumn ▸ column_le_after_name hname ((p.next ' ').next ' '))
      (dedents_fields fields hothers htail)
    have hnext := hvalue.nextName hname (head_valueText ..) hcolumn
    simpa [fieldLine, field_eq] using hnext.space.space

/-- A line that is not indented closes the mapping of a record. -/
theorem Finishes.closeRecord (hstart : p.column = 0) (htail : Dedents 1 tail)
    (hrest : (outside p tail (.blockEnd :: tokens) [0] true).Finishes finished) :
    (outside p tail tokens [2, 0] true).Finishes finished := by
  apply Finishes.close hrest rfl rfl rfl
  intro glyph hglyph
  rcases htail with rfl | ⟨width, c, rest, rfl, hwidth, hgap, hcomment, -⟩
  · cases hglyph
  · obtain rfl : width = 0 := by omega
    rw [List.replicate_zero, List.nil_append, toToken_of_token (glyphs_cons p c rest) hgap hcomment] at hglyph
    simp only [outside, glyphs_cons, List.head?_cons, Option.mem_def, Option.some.injEq] at hglyph
    simp [← hglyph, hstart]

/-- A field ends its line. -/
theorem column_after_field (p : Place) (pair : String × FieldValue) :
    (p.after (field pair.1 pair.2)).column = 0 := by
  have heq : field pair.1 pair.2 = (pair.1.toList ++ [':']) ++ valueText (3 + pair.1.length) pair.2 := by
    simp [field_eq]
  rw [heq, Place.after_append]
  exact column_after_valueText ..

/-- Fields that begin at the start of a line end at the start of one. -/
theorem column_after_fields (fields : Record) (hstart : p.column = 0) :
    (p.after (fields.flatMap fieldLine)).column = 0 := by
  induction fields generalizing p with
  | nil => exact hstart
  | cons pair fields ih =>
    rw [List.flatMap_cons, Place.after_append]
    exact ih (column_after_field ((p.next ' ').next ' ') pair)

theorem column_after_record (p : Place) {fields : Record} (hne : fields ≠ []) :
    (p.after (Listing.record fields)).column = 0 := by
  match fields, hne with
  | pair :: fields, _ =>
    rw [record_cons, Place.after_cons, Place.after_cons, Place.after_append]
    exact column_after_fields fields (column_after_field ..)

/-- A record is read up to the line after it, which closes it. -/
theorem Finishes.record (fields : Record) (hne : fields ≠ []) (hnames : ∀ field ∈ fields, IsName field.1)
    (hstart : p.column = 0) (htail : Dedents 1 tail)
    (hrest : (outside (p.after (Listing.record fields)) tail ((recordTokens fields).reverse ++ tokens) [0]
      true).Finishes finished) :
    (outside p (Listing.record fields ++ tail) tokens [0] true).Finishes finished := by
  have hend := column_after_record p hne
  match fields, hne with
  | (name, value) :: fields, _ =>
    obtain ⟨hname, hothers⟩ := List.forall_mem_cons.mp hnames
    have hcolumn : ((p.next '-').next ' ').column = 2 := by
      simp [Place.next, isBreak, byteOrderMark, hstart]
    have hclose : (outside (p.after (Listing.record ((name, value) :: fields))) tail
        ((fields.flatMap fieldTokens).reverse ++ ((valueTokens value).reverse ++ .value :: .scalar name true ::
          .key :: .blockMappingStart :: .blockEntry :: tokens)) [2, 0] true).Finishes finished :=
      Finishes.closeRecord hend htail (by simpa [recordTokens, fieldTokens] using hrest)
    have hfields : (outside ((((p.next '-').next ' ').after (name.toList ++ [':'])).after
        (valueText (3 + name.length) value)) (fields.flatMap fieldLine ++ tail) ((valueTokens value).reverse ++ .value ::
          .scalar name true :: .key :: .blockMappingStart :: .blockEntry :: tokens) [2, 0] true).Finishes finished :=
      Finishes.fields fields hothers (column_after_valueText ..) (htail.mono (by decide))
        (by simpa [record_cons, field_eq] using hclose)
    have hvalue := hfields.value value (hcolumn ▸ column_le_after_name hname ((p.next '-').next ' '))
      (dedents_fields fields hothers (htail.mono (by decide)))
    have hfirst := hvalue.firstName hname (head_valueText ..) hcolumn fun outer houter ↦ by
      cases houter
      decide
    have hentry : (outside p ('-' :: ' ' :: (field name value ++ (fields.flatMap fieldLine ++ tail))) tokens [0]
        true).Finishes finished :=
      Finishes.entry hstart rfl (by simpa [field_eq] using hfirst.space)
    simpa [record_cons] using hentry

/-- The records of a listing are read, one after the other. -/
theorem Finishes.records (records : List Record)
    (hnames : ∀ fields ∈ records, fields ≠ [] ∧ ∀ field ∈ fields, IsName field.1) (hstart : p.column = 0)
    (hrest : (outside (p.after (records.flatMap Listing.record)) [] ((records.flatMap recordTokens).reverse ++ tokens)
      [0] true).Finishes finished) :
    (outside p (records.flatMap Listing.record) tokens [0] true).Finishes finished := by
  induction records generalizing p tokens with
  | nil => exact hrest
  | cons fields records ih =>
    obtain ⟨⟨hne, hfields⟩, hothers⟩ := List.forall_mem_cons.mp hnames
    have htail : Dedents 1 (records.flatMap Listing.record) := by
      cases records with
      | nil => exact .inl rfl
      | cons next records =>
        match next, (hothers next List.mem_cons_self).1 with
        | pair :: next, _ =>
          rw [List.flatMap_cons, record_cons]
          exact .inr ⟨0, '-', _, rfl, by decide, rfl, by decide, fun _ ↦ rfl⟩
    have hrecords : (outside (p.after (Listing.record fields)) (records.flatMap Listing.record)
        ((recordTokens fields).reverse ++ tokens) [0] true).Finishes finished :=
      ih hothers (column_after_record p hne) (by simpa using hrest)
    exact hrecords.record fields hne hfields hstart htail

end Reading

/-! ### The listing -/

namespace Listing

/-- What is printed is the name of the listing and its records. -/
theorem print_toList (listing : Listing) :
    listing.print.toList = listing.name.toList ++ ':' ::
      (if listing.records.isEmpty then emptyList else '\n' :: listing.records.flatMap record) := by
  simp [print]

/-- A document that begins with a name is a mapping with the name as its first key. -/
theorem ofGlyphs_opened {name : String} {text : List Char} {finished : List Token} (hname : IsName name)
    (hrest : (outside (Place.origin.after (name.toList ++ [':'])) text [.value, .scalar name true, .key,
      .blockMappingStart] [0] false).Finishes finished) (hgap : text.head?.all isGap = true) :
    Token.ofGlyphs (glyphs .origin (name.toList ++ ':' :: text)) = finished.reverse := by
  have hopen : (outside .origin (name.toList ++ ':' :: text) [] [] true).Finishes finished :=
    hrest.firstName hname hgap rfl (by simp)
  exact Finishes.ofGlyphs hopen

/-- The tokens of the text of a listing are those of its parts. -/
theorem ofGlyphs_print (listing : Listing) (hnamed : listing.IsNamed) :
    Token.ofGlyphs (Glyph.ofText listing.print.toList) = listing.tokens := by
  rw [ofText_eq_glyphs, print_toList]
  by_cases hempty : listing.records.isEmpty = true
  · have hbrackets : emptyList = [' ', '[', ']', '\n'] := rfl
    have hlist : (outside ((Place.origin.after (listing.name.toList ++ [':'])).next ' ') ['[', ']', '\n'] [.value,
        .scalar listing.name true, .key, .blockMappingStart] [0] false).Finishes _ :=
      (finishes_end 0).newLine.emptyList (by simp)
    rw [if_pos hempty, hbrackets, ofGlyphs_opened hnamed.name hlist.space rfl]
    simp [tokens, hempty]
  · have hrecords : (outside ((Place.origin.after (listing.name.toList ++ [':'])).next '\n')
        (listing.records.flatMap record) [.value, .scalar listing.name true, .key, .blockMappingStart] [0]
        true).Finishes _ :=
      Finishes.records listing.records hnamed.records rfl (finishes_end 0)
    rw [if_neg hempty, ofGlyphs_opened hnamed.name hrecords.newLine rfl]
    simp [tokens, hempty]

end Listing

end WorkerAdvisor.Yaml
