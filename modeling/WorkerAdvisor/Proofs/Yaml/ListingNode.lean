import WorkerAdvisor.Proofs.Yaml.ListingTokens
import WorkerAdvisor.Yaml.Node

/-!
From the tokens of a listing to its node.

The readers of tokens are bounded in the number of their calls. A value of a field is read within a few more calls than
it has tokens, and so is everything made of such values, so the bound of a whole document is enough. The node has the
shape of the listing, with its texts reread (`ofTokens_tokens`).
-/

set_option autoImplicit false

namespace WorkerAdvisor.Yaml

/-! ### The node of a listing -/

namespace Node

def ofText (content : String) : Node := scalar none .text content

def ofList (items : List Node) : Node := .sequence none .sequence items

def ofPairs (pairs : List (String × Node)) : Node :=
  mapping none .mapping (pairs.map fun (name, value) ↦ (ofText name, value))

end Node

namespace Listing

def valueNode : FieldValue → Node
  | .text content => .ofText content
  | .texts contents => .ofList (contents.map .ofText)

def recordNode (fields : Record) : Node := .ofPairs (fields.map fun (name, value) ↦ (name, valueNode value))

def node (listing : Listing) : Node := .ofPairs [(listing.name, .ofList (listing.records.map recordNode))]

/-- The value of a field with its texts reread. -/
def rereadValue : FieldValue → FieldValue
  | .text content => .text (reread content)
  | .texts contents => .texts (contents.map reread)

def reread (listing : Listing) : Listing :=
  ⟨listing.name, listing.records.map fun fields ↦ fields.map fun (name, value) ↦ (name, rereadValue value)⟩

end Listing

/-! ### Reading the tokens -/

namespace Node

variable {steps : Nat} {rest left : List Token}

/-- A scalar token alone is read as a scalar, whose tag goes by its form. -/
theorem read_scalar (setting : Setting) (content : String) (plain : Bool) :
    read usualHandles (steps + 1) setting ⟨.scalar content plain :: rest, []⟩ =
      .ok (scalar none (scalarTag none content plain) content, ⟨rest, []⟩) := by
  rw [read]
  rfl

/-- Two brackets are read as an empty list. -/
theorem read_emptyFlow (setting : Setting) :
    read usualHandles (steps + 2) setting ⟨.flowSequenceStart :: .flowSequenceEnd :: rest, []⟩ =
      .ok (ofList [], ⟨rest, []⟩) := by
  rw [read]
  rfl

/-- A list under a key need not be indented. -/
theorem read_indentless {items : List Node}
    (hitems : readIndentless usualHandles steps ⟨.blockEntry :: rest, []⟩ = .ok (items, ⟨left, []⟩)) :
    read usualHandles (steps + 1) inBlockMapping ⟨.blockEntry :: rest, []⟩ = .ok (ofList items, ⟨left, []⟩) := by
  rw [read]
  simp [properties, Progress.note, inBlockMapping, hitems, collectionTag, ofList, bind, Except.bind, pure,
    Except.pure]

/-- The pairs between the tokens of a mapping are read as the mapping. -/
theorem read_blockMapping {pairs : List (Node × Node)}
    (hpairs : readBlockPairs usualHandles steps ⟨rest, []⟩ = .ok (pairs, ⟨left, []⟩)) :
    read usualHandles (steps + 1) inBlock ⟨.blockMappingStart :: rest, []⟩ =
      .ok (mapping none .mapping pairs, ⟨left, []⟩) := by
  rw [read]
  simp [properties, Progress.note, inBlock, hpairs, collectionTag, bind, Except.bind, pure, Except.pure]

theorem readOrNothing_of_not_ends {setting : Setting} {ends : Token → Bool} (token : Token)
    (hends : ends token = false) :
    readOrNothing usualHandles (steps + 1) setting ends ⟨token :: rest, []⟩ =
      read usualHandles steps setting ⟨token :: rest, []⟩ := by
  rw [readOrNothing]
  simp [hends]

/-- The items of a list are read up to a token that begins no item, if each of them is read. -/
theorem readIndentless_flatMap {α : Type} (steps : Nat) (body : α → List Token) (node : α → Node) (items : List α)
    (enough : Nat) (hrest : rest.head? ≠ some .blockEntry)
    (hitem : ∀ item ∈ items, ∀ steps left, enough ≤ steps →
      readOrNothing usualHandles steps inBlock endsIndentlessItem ⟨body item ++ left, []⟩ =
        .ok (node item, ⟨left, []⟩))
    (hsteps : items.length + enough + 1 ≤ steps) :
    readIndentless usualHandles steps ⟨(items.flatMap fun item ↦ .blockEntry :: body item) ++ rest, []⟩ =
      .ok (items.map node, ⟨rest, []⟩) := by
  induction items generalizing steps with
  | nil =>
    obtain ⟨steps, rfl⟩ : ∃ less, steps = less + 1 := ⟨steps - 1, by omega⟩
    rw [List.flatMap_nil, List.nil_append, readIndentless]
    split
    · rename_i heq
      simp only at heq
      simp [heq] at hrest
    · rfl
  | cons item items ih =>
    simp only [List.length_cons] at hsteps
    obtain ⟨steps, rfl⟩ : ∃ less, steps = less + 1 := ⟨steps - 1, by omega⟩
    obtain ⟨hfirst, hothers⟩ := List.forall_mem_cons.mp hitem
    have hread := hfirst steps ((items.flatMap fun item ↦ .blockEntry :: body item) ++ rest) (by omega)
    have hmore := ih steps hothers (by omega)
    rw [List.flatMap_cons, List.append_assoc, List.cons_append, readIndentless]
    simp [hread, hmore, bind, Except.bind, pure, Except.pure]

/-- The pairs of a mapping are read up to its end, if each value is read. -/
theorem readBlockPairs_flatMap {α : Type} (steps : Nat) (name : α → String) (body : α → List Token) (node : α → Node)
    (pairs : List α) (enough : Nat) (rest : List Token) (hnames : ∀ pair ∈ pairs, Tag.ofForm (name pair) = .text)
    (hvalue : ∀ pair ∈ pairs, ∀ steps left, enough ≤ steps → left.head?.any endsBlockPart = true →
      readOrNothing usualHandles steps inBlockMapping endsBlockPart ⟨body pair ++ left, []⟩ =
        .ok (node pair, ⟨left, []⟩))
    (hsteps : pairs.length + enough + 3 ≤ steps) :
    readBlockPairs usualHandles steps ⟨(pairs.flatMap fun pair ↦ .key :: .scalar (name pair) true :: .value ::
      body pair) ++ .blockEnd :: rest, []⟩ =
        .ok (pairs.map fun pair ↦ (ofText (name pair), node pair), ⟨rest, []⟩) := by
  induction pairs generalizing steps with
  | nil =>
    obtain ⟨steps, rfl⟩ : ∃ less, steps = less + 1 := ⟨steps - 1, by omega⟩
    rw [List.flatMap_nil, List.nil_append, readBlockPairs]
    rfl
  | cons pair pairs ih =>
    simp only [List.length_cons] at hsteps
    obtain ⟨steps, rfl⟩ : ∃ less, steps = less + 3 := ⟨steps - 3, by omega⟩
    obtain ⟨hname, hotherNames⟩ := List.forall_mem_cons.mp hnames
    obtain ⟨hfirst, hothers⟩ := List.forall_mem_cons.mp hvalue
    have hends : ((pairs.flatMap fun pair ↦ Token.key :: .scalar (name pair) true :: .value :: body pair) ++
        .blockEnd :: rest).head?.any endsBlockPart = true := by
      cases pairs <;> rfl
    have hread := hfirst (steps + 1) _ (by omega) hends
    have hmore := ih (steps + 2) hotherNames hothers (by omega)
    rw [List.flatMap_cons, readBlockPairs]
    simp only [List.cons_append, List.append_assoc]
    rw [readOrNothing_of_not_ends _ rfl, read_scalar]
    simp only [bind, Except.bind]
    rw [readValue]
    simp only [hread, hmore]
    simp [scalarTag, hname, ofText, pure, Except.pure]

end Node

namespace Listing

open Node
open Reading (scalarToken)

variable {steps : Nat} {left : List Token}

/-- A text that is written as a scalar is read as a text, whatever it has the form of. -/
theorem scalarTag_scalarToken (content : String) :
    scalarTag none (Yaml.reread content) (ScalarStyle.choose content.toList == .plain) = .text := by
  cases hstyle : ScalarStyle.choose content.toList with
  | plain =>
    have hfits := fitsPlain_of_choose hstyle
    simp only [ScalarStyle.fitsPlain, Bool.and_eq_true, beq_iff_eq, String.ofList_toList] at hfits
    simpa [scalarTag, Yaml.reread, hstyle] using hfits.2
  | single => rfl
  | double => rfl

/-- The token of a text is read as the text that it is reread as. -/
theorem read_scalarToken (setting : Setting) (content : String) :
    read usualHandles (steps + 1) setting ⟨scalarToken content :: left, []⟩ =
      .ok (.ofText (Yaml.reread content), ⟨left, []⟩) := by
  rw [scalarToken, read_scalar, scalarTag_scalarToken]
  rfl

theorem length_items (contents : List String) : (contents.flatMap itemTokens).length = 2 * contents.length := by
  induction contents with
  | nil => rfl
  | cons content contents ih =>
    simp only [List.flatMap_cons, List.length_append, ih, itemTokens, List.length_cons, List.length_nil]
    omega

/-- The end of a part of a mapping is no item of a sequence. -/
theorem head_ne_blockEntry (hleft : left.head?.any endsBlockPart = true) : left.head? ≠ some .blockEntry := by
  intro heq
  simp [heq, endsBlockPart] at hleft

/-- The tokens of the value of a field are read as its node, with its texts reread. -/
theorem readOrNothing_value (value : FieldValue) (hleft : left.head?.any endsBlockPart = true)
    (hsteps : (valueTokens value).length + 4 ≤ steps) :
    readOrNothing usualHandles steps inBlockMapping endsBlockPart ⟨valueTokens value ++ left, []⟩ =
      .ok (valueNode (rereadValue value), ⟨left, []⟩) := by
  obtain ⟨steps, rfl⟩ : ∃ less, steps = less + 4 := ⟨steps - 4, by omega⟩
  match value with
  | .text content =>
    have hends : endsBlockPart (scalarToken content) = false := rfl
    exact (readOrNothing_of_not_ends _ hends).trans (read_scalarToken inBlockMapping content)
  | .texts [] => exact (readOrNothing_of_not_ends _ rfl).trans (read_emptyFlow inBlockMapping)
  | .texts (content :: contents) =>
    have hrest := head_ne_blockEntry hleft
    have hlength := length_items (content :: contents)
    simp only [List.length_cons] at hlength
    have hitems := readIndentless_flatMap (steps + 2) (fun content ↦ [scalarToken content])
      (fun content ↦ Node.ofText (Yaml.reread content)) (content :: contents) 2 hrest
      (fun item _ steps left hsteps ↦ by
        obtain ⟨steps, rfl⟩ : ∃ less, steps = less + 2 := ⟨steps - 2, by omega⟩
        have hends : endsIndentlessItem (scalarToken item) = false := rfl
        exact (readOrNothing_of_not_ends _ hends).trans (read_scalarToken inBlock item))
      (by simp only [valueTokens, List.length_cons] at hsteps ⊢; omega)
    refine (readOrNothing_of_not_ends .blockEntry rfl).trans ((read_indentless hitems).trans ?_)
    simp [valueNode, rereadValue, Function.comp_def]

/-- The part of an item of a sequence after its mark, where the item is a record. -/
def recordBody (fields : Record) : List Token :=
  .blockMappingStart :: (fields.flatMap fieldTokens ++ [.blockEnd])

theorem length_le_flatMap {α : Type} {f : α → List Token} {items : List α} {item : α} (hmem : item ∈ items) :
    (f item).length ≤ (items.flatMap f).length :=
  (List.sublist_flatten_of_mem (List.mem_map_of_mem hmem)).length_le

theorem length_le_length_flatMap {α : Type} {f : α → List Token} (hpos : ∀ item, 0 < (f item).length)
    (items : List α) : items.length ≤ (items.flatMap f).length := by
  induction items with
  | nil => exact Nat.le_refl _
  | cons item items ih =>
    have hitem := hpos item
    simp only [List.flatMap_cons, List.length_append, List.length_cons]
    omega

/-- The tokens of a record are read as its node, with its texts reread. -/
theorem readOrNothing_record (fields : Record) (hnames : ∀ field ∈ fields, Reading.IsName field.1)
    (hsteps : 2 * (recordBody fields).length + 10 ≤ steps) :
    readOrNothing usualHandles steps inBlock endsIndentlessItem ⟨recordBody fields ++ left, []⟩ =
      .ok (recordNode (fields.map fun (name, value) ↦ (name, rereadValue value)), ⟨left, []⟩) := by
  obtain ⟨steps, rfl⟩ : ∃ less, steps = less + 2 := ⟨steps - 2, by omega⟩
  have hcount := length_le_length_flatMap (f := fieldTokens) (fun _ ↦ Nat.succ_pos _) fields
  simp only [recordBody, List.length_cons, List.length_append, List.length_nil] at hsteps
  have hvalues : ∀ field ∈ fields, ∀ steps left, (fields.flatMap fieldTokens).length + 4 ≤ steps →
      left.head?.any endsBlockPart = true →
        readOrNothing usualHandles steps inBlockMapping endsBlockPart ⟨valueTokens field.2 ++ left, []⟩ =
          .ok (valueNode (rereadValue field.2), ⟨left, []⟩) := by
    intro field hfield steps left hsteps hleft
    have hlength := length_le_flatMap (f := fieldTokens) hfield
    simp only [fieldTokens, List.length_cons] at hlength
    exact readOrNothing_value field.2 hleft (by omega)
  have hpairs := readBlockPairs_flatMap steps Prod.fst _ _ fields _ left
    (fun field hfield ↦ (hnames field hfield).form) hvalues (by omega)
  have hbody : recordBody fields ++ left = .blockMappingStart :: (fields.flatMap fieldTokens ++ .blockEnd :: left) := by
    simp [recordBody]
  rw [hbody]
  refine (readOrNothing_of_not_ends .blockMappingStart rfl).trans ((read_blockMapping hpairs).trans ?_)
  simp [recordNode, ofPairs, Function.comp_def]

/-- The tokens of the records of a listing, or of the list without records, are read as their nodes. -/
theorem readOrNothing_records (records : List Record)
    (hnames : ∀ fields ∈ records, ∀ field ∈ fields, Reading.IsName field.1)
    (hleft : left.head?.any endsBlockPart = true)
    (hsteps : 3 * (records.flatMap recordTokens).length + 14 ≤ steps) :
    readOrNothing usualHandles steps inBlockMapping endsBlockPart
      ⟨(if records.isEmpty then [.flowSequenceStart, .flowSequenceEnd] else records.flatMap recordTokens) ++ left, []⟩ =
      .ok (.ofList (records.map fun fields ↦ recordNode (fields.map fun (name, value) ↦ (name, rereadValue value))),
        ⟨left, []⟩) := by
  obtain ⟨steps, rfl⟩ : ∃ less, steps = less + 3 := ⟨steps - 3, by omega⟩
  match records with
  | [] => exact (readOrNothing_of_not_ends _ rfl).trans (read_emptyFlow inBlockMapping)
  | fields :: records =>
    have hrest := head_ne_blockEntry hleft
    have hcount := length_le_length_flatMap (f := recordTokens) (fun _ ↦ Nat.succ_pos _) (fields :: records)
    have hrecords : ∀ record ∈ fields :: records, ∀ steps left,
        2 * ((fields :: records).flatMap recordTokens).length + 10 ≤ steps →
          readOrNothing usualHandles steps inBlock endsIndentlessItem ⟨recordBody record ++ left, []⟩ =
            .ok (recordNode (record.map fun (name, value) ↦ (name, rereadValue value)), ⟨left, []⟩) := by
      intro record hrecord steps left hsteps
      have hlength : (recordTokens record).length ≤ _ := length_le_flatMap hrecord
      have hbody : (recordTokens record).length = (recordBody record).length + 1 := rfl
      exact readOrNothing_record record (hnames record hrecord) (by omega)
    have hitems := readIndentless_flatMap (steps + 1) recordBody _ (fields :: records) _ hrest hrecords (by omega)
    exact (readOrNothing_of_not_ends .blockEntry rfl).trans (read_indentless hitems)

/-- The tokens of a listing are read as the node of the listing with its texts reread. -/
theorem ofTokens_tokens (listing : Listing) (hnamed : listing.IsNamed) :
    Node.ofTokens listing.tokens = .ok (some listing.reread.node) := by
  have hlength : (listing.records.flatMap recordTokens).length + 5 ≤ listing.tokens.length := by
    simp only [tokens]
    split
    · rename_i hempty
      simp [List.isEmpty_iff.mp hempty]
    · simp
  have hpairs := readBlockPairs_flatMap (4 * listing.tokens.length + 3) Listing.name
    (fun listing ↦ if listing.records.isEmpty then [.flowSequenceStart, .flowSequenceEnd] else
      listing.records.flatMap recordTokens)
    (fun listing ↦ Node.ofList (listing.records.map fun fields ↦
      recordNode (fields.map fun (name, value) ↦ (name, rereadValue value)))) [listing]
    (3 * (listing.records.flatMap recordTokens).length + 14) [] (by simp [hnamed.name.form])
    (fun other hother steps left hsteps hleft ↦ by
      obtain rfl := List.mem_singleton.mp hother
      exact readOrNothing_records _ (fun fields hfields ↦ (hnamed.records fields hfields).2) hleft hsteps)
    (by simp only [List.length_cons, List.length_nil]; omega)
  have hread := read_blockMapping hpairs
  have htokens : listing.tokens = .blockMappingStart :: (([listing].flatMap fun listing : Listing ↦ .key ::
      .scalar listing.name true :: .value :: (if listing.records.isEmpty then
        [.flowSequenceStart, .flowSequenceEnd] else listing.records.flatMap recordTokens)) ++ [.blockEnd]) := by
    simp [tokens]
  have hroot : Node.read usualHandles (stepBound listing.tokens) inBlock ⟨listing.tokens, []⟩ =
      .ok (listing.reread.node, ⟨[], []⟩) := by
    refine Eq.trans ?_ (hread.trans ?_)
    · rw [← htokens]
      rfl
    · simp [reread, node, ofPairs, Function.comp_def]
  obtain ⟨rest, hrest⟩ : ∃ rest, listing.tokens = .blockMappingStart :: rest := ⟨_, rfl⟩
  rw [hrest] at hroot ⊢
  simp only [Node.ofTokens, hroot]
  rfl

end Listing

end WorkerAdvisor.Yaml
