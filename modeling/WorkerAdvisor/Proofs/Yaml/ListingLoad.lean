import Mathlib.Data.List.Basic
import WorkerAdvisor.Proofs.Yaml.ListingNode
import WorkerAdvisor.Proofs.Yaml.Printed
import WorkerAdvisor.Yaml.Load

/-!
Loading the text of a listing.

A node of texts, lists and mappings with texts as keys, without anchors, has no fault (`check_of_bare`), and its value
has its shape. So the text of a listing is loaded as the value of the listing with its texts reread, whatever its texts
are (`load_print`).
-/

set_option autoImplicit false

namespace WorkerAdvisor.Yaml

/-! ### Faults -/

namespace Node

/-- Whether a node is made of texts, lists and mappings with texts as keys, without anchors. -/
inductive IsBare : Node → Prop
  | text (content : String) : IsBare (ofText content)
  | list (items : List Node) (hitems : ∀ item ∈ items, IsBare item) : IsBare (ofList items)
  | pairs (pairs : List (String × Node)) (hvalues : ∀ pair ∈ pairs, IsBare pair.2) : IsBare (ofPairs pairs)

theorem anchoredItems_eq_nil {items : List Node} (hitems : ∀ item ∈ items, item.anchored = []) :
    anchored.anchoredItems items = [] := by
  induction items with
  | nil => rfl
  | cons item items ih =>
    obtain ⟨hitem, hothers⟩ := List.forall_mem_cons.mp hitems
    rw [anchored.anchoredItems, hitem, ih hothers]
    rfl

theorem anchoredPairs_eq_nil {pairs : List (String × Node)} (hvalues : ∀ pair ∈ pairs, pair.2.anchored = []) :
    anchored.anchoredPairs (pairs.map fun (name, value) ↦ (ofText name, value)) = [] := by
  induction pairs with
  | nil => rfl
  | cons pair pairs ih =>
    obtain ⟨hvalue, hothers⟩ := List.forall_mem_cons.mp hvalues
    rw [List.map_cons, anchored.anchoredPairs, hvalue, ih hothers]
    rfl

/-- A bare node has no anchors in it. -/
theorem IsBare.anchored_eq_nil {node : Node} (hbare : node.IsBare) : node.anchored = [] := by
  induction hbare with
  | text content => rfl
  | list items _ ih => exact anchoredItems_eq_nil ih
  | pairs pairs _ ih => exact anchoredPairs_eq_nil ih

end Node

namespace Document

open Node

variable {bound : Nat} {queue : Queue}

/-- Whether the nodes that wait are bare collections. -/
def Queue.IsBare (queue : Queue) : Prop :=
  ∀ node ∈ queue.waiting, node.IsBare ∧ isCollectionTag node.tag = true

/-- A bare node has no fault of its own, and what it adds to the queue is bare. -/
theorem visit_of_bare (hbound : 0 < bound) (hqueue : queue.IsBare) {node : Node} (hbare : node.IsBare) :
    ∃ next, visit [] bound queue node = .ok next ∧ next.IsBare := by
  obtain ⟨bound, rfl⟩ : ∃ less, bound = less + 1 := ⟨bound - 1, by omega⟩
  have hadded : isCollectionTag node.tag = true → ∀ other ∈ queue.waiting ++ [node],
      other.IsBare ∧ isCollectionTag other.tag = true := by
    intro hcollection other hother
    rcases List.mem_append.mp hother with hwaiting | hnode
    · exact hqueue other hwaiting
    · exact List.mem_singleton.mp hnode ▸ ⟨hbare, hcollection⟩
  cases hbare with
  | text content => exact ⟨queue, rfl, hqueue⟩
  | list items hitems => exact ⟨⟨queue.waiting ++ [ofList items], queue.found⟩, rfl, hadded rfl⟩
  | pairs pairs hvalues => exact ⟨⟨queue.waiting ++ [ofPairs pairs], queue.found⟩, rfl, hadded rfl⟩

/-- Examining bare nodes finds no fault, and only bare nodes are left to be examined. -/
theorem foldlM_visit_of_bare (hbound : 0 < bound) {items : List Node} (hitems : ∀ item ∈ items, item.IsBare)
    (hqueue : queue.IsBare) :
    ∃ next, items.foldlM (visit [] bound) queue = .ok next ∧ next.IsBare := by
  induction items generalizing queue with
  | nil => exact ⟨queue, rfl, hqueue⟩
  | cons item items ih =>
    obtain ⟨hitem, hothers⟩ := List.forall_mem_cons.mp hitems
    obtain ⟨next, hnext, hbare⟩ := visit_of_bare hbound hqueue hitem
    rw [List.foldlM_cons, hnext]
    exact ih hothers hbare

theorem foldlM_visitPair_of_bare (hbound : 0 < bound) {pairs : List (String × Node)}
    (hvalues : ∀ pair ∈ pairs, pair.2.IsBare) (hqueue : queue.IsBare) :
    ∃ next, (pairs.map fun (name, value) ↦ (ofText name, value)).foldlM (visitPair [] bound) queue = .ok next ∧
      next.IsBare := by
  induction pairs generalizing queue with
  | nil => exact ⟨queue, rfl, hqueue⟩
  | cons pair pairs ih =>
    obtain ⟨hvalue, hothers⟩ := List.forall_mem_cons.mp hvalues
    obtain ⟨afterKey, hkey, hafterKey⟩ := visit_of_bare hbound hqueue (.text pair.1)
    obtain ⟨next, hnext, hbare⟩ := visit_of_bare hbound hafterKey hvalue
    have hpair : visitPair [] bound queue (ofText pair.1, pair.2) = .ok next := by
      rw [← hnext, visitPair, hkey]
      rfl
    rw [List.map_cons, List.foldlM_cons, hpair]
    exact ih hothers hbare

/-- A traversal in which nothing fails is a map. -/
theorem mapM_eq_ok {α β : Type} {f : α → Except Fault β} {g : α → β} {items : List α}
    (hitems : ∀ item ∈ items, f item = .ok (g item)) : items.mapM f = .ok (items.map g) := by
  induction items with
  | nil => rfl
  | cons item items ih =>
    obtain ⟨hitem, hothers⟩ := List.forall_mem_cons.mp hitems
    rw [List.mapM_cons, hitem, ih hothers]
    rfl

/-- A mapping without merge keys is not changed by merging. -/
theorem mergedPairs_of_names (steps : Nat) (seen : List String) (pairs : List (String × Node)) :
    mergedPairs [] steps seen (pairs.map fun (name, value) ↦ (ofText name, value)) =
      .ok (pairs.map fun (name, value) ↦ (ofText name, value)) := by
  cases steps with
  | zero => rfl
  | succ steps =>
    rw [mergedPairs, mapM_eq_ok (g := fun _ ↦ []) fun pair hpair ↦ ?_]
    · simp only [bind, Except.bind, pure, Except.pure]
      have hsources : ∀ pairs : List (Node × Node), (pairs.map fun _ ↦ ([] : List (Node × Node))).flatten = [] := by
        intro pairs
        induction pairs <;> simp_all
      have hown := congrFun (List.filterMap_eq_map' (f := fun pair : String × Node ↦ (ofText pair.1, pair.2))) pairs
      rw [hsources, List.nil_append, List.filterMap_map]
      exact congrArg Except.ok hown
    · obtain ⟨⟨name, value⟩, -, rfl⟩ := List.mem_map.mp hpair
      rfl

/-- The parts of a bare collection have no fault. -/
theorem visitParts_of_bare (hbound : 0 < bound) (hqueue : queue.IsBare) {node : Node} (hbare : node.IsBare)
    (hcollection : isCollectionTag node.tag = true) :
    ∃ next, visitParts [] bound queue node = .ok next ∧ next.IsBare := by
  cases hbare with
  | text content => cases hcollection
  | list items hitems => exact foldlM_visit_of_bare hbound hitems hqueue
  | pairs pairs hvalues =>
    obtain ⟨next, hnext, hbare⟩ := foldlM_visitPair_of_bare hbound hvalues hqueue
    refine ⟨next, ?_, hbare⟩
    rw [← hnext, ofPairs, visitParts, mergedPairs_of_names]
    · rfl
    · rfl

/-- Examining bare nodes and all their parts finds no fault. -/
theorem visitAll_of_bare (hbound : 0 < bound) (steps : Nat) (hqueue : queue.IsBare) :
    visitAll [] bound steps queue = .ok () := by
  induction steps generalizing queue with
  | zero => rfl
  | succ steps ih =>
    obtain ⟨waiting, found⟩ := queue
    cases waiting with
    | nil => rfl
    | cons node waiting =>
      obtain ⟨⟨hbare, hcollection⟩, hothers⟩ := List.forall_mem_cons.mp hqueue
      have hwaiting : Queue.IsBare ⟨waiting, found⟩ := hothers
      obtain ⟨next, hnext, hnextBare⟩ := visitParts_of_bare hbound hwaiting hbare hcollection
      rw [visitAll]
      simp only [hnext]
      exact ih hnextBare

/-- A bare node has no fault. -/
theorem check_of_bare {node : Node} (hbare : node.IsBare) : check node = .ok () := by
  have hbound : 0 < node.size + 1 := Nat.succ_pos _
  have hempty : Queue.IsBare ⟨[], []⟩ := fun _ hmem ↦ absurd hmem List.not_mem_nil
  obtain ⟨queue, hqueue, hqueueBare⟩ := visit_of_bare hbound hempty hbare
  rw [check, hbare.anchored_eq_nil, hqueue]
  exact visitAll_of_bare (Nat.succ_pos _) _ hqueueBare

/-! ### Values -/

/-- Whether a node has a value, where no anchor is known and it carries none. -/
def HasValue (node : Node) (value : Value) : Prop :=
  ∃ entries, meaning [] [] node = (⟨value, entries⟩, [])

theorem hasValue_ofText (content : String) : HasValue (ofText content) (.text content) := ⟨[], rfl⟩

/-- The value of a list has the values of its items. -/
theorem hasValue_ofList {α : Type} {node : α → Node} {value : α → Value} {items : List α}
    (hitems : ∀ item ∈ items, HasValue (node item) (value item)) :
    HasValue (ofList (items.map node)) (.list (items.map value)) := by
  have hparts : ∃ parts, meaningItems [] [] (items.map node) = (parts, []) ∧
      parts.map (·.value) = items.map value := by
    induction items with
    | nil => exact ⟨[], rfl, rfl⟩
    | cons item items ih =>
      obtain ⟨⟨entries, hitem⟩, hothers⟩ := List.forall_mem_cons.mp hitems
      obtain ⟨parts, hmeaning, hvalues⟩ := ih hothers
      refine ⟨⟨value item, entries⟩ :: parts, ?_, by rw [List.map_cons, List.map_cons, hvalues]⟩
      rw [List.map_cons, meaningItems, hitem]
      simp only [hmeaning]
  obtain ⟨parts, hmeaning, hvalues⟩ := hparts
  refine ⟨(parts.reverse.map (·.entries)).flatten, ?_⟩
  rw [ofList, meaning]
  simp [hmeaning, hvalues, note]

/-- Where all keys are texts, the entries of a mapping are its pairs. -/
theorem entriesOf_of_text {parts : List PairMeaning} (htags : ∀ part ∈ parts, part.keyTag = .text) :
    entriesOf parts = parts.filterMap fun part ↦ entry? part.key.value part.value.value := by
  have hmerged : parts.filter (·.keyTag == .merge) = [] :=
    List.filter_eq_nil_iff.mpr fun part hpart ↦ by simp [htags part hpart]
  have hown : parts.filter (·.keyTag != .merge) = parts :=
    List.filter_eq_self.mpr fun part hpart ↦ by simp [htags part hpart]
  rw [entriesOf, hmerged, hown]
  exact List.filterMap_congr fun part hpart ↦ by simp [htags part hpart]

/-- The value of a mapping has the values under its names. -/
theorem hasValue_ofPairs {α : Type} (name : α → String) (node : α → Node) (value : α → Value) (pairs : List α)
    (hpairs : ∀ pair ∈ pairs, HasValue (node pair) (value pair)) :
    HasValue (ofPairs (pairs.map fun pair ↦ (name pair, node pair)))
      (.mapping (pairs.map fun pair ↦ (name pair, value pair))) := by
  have hparts : ∃ parts, meaningPairs [] [] ((pairs.map fun pair ↦ (name pair, node pair)).map
      fun (name, value) ↦ (ofText name, value)) = (parts, []) ∧ (∀ part ∈ parts, part.keyTag = .text) ∧
      (parts.filterMap fun part ↦ entry? part.key.value part.value.value) =
        pairs.map fun pair ↦ (name pair, value pair) := by
    induction pairs with
    | nil => exact ⟨[], rfl, by simp, rfl⟩
    | cons pair pairs ih =>
      obtain ⟨⟨entries, hpair⟩, hothers⟩ := List.forall_mem_cons.mp hpairs
      obtain ⟨parts, hmeaning, htags, hentries⟩ := ih hothers
      refine ⟨⟨.text, ⟨.text (name pair), []⟩, ⟨value pair, entries⟩⟩ :: parts, ?_,
        List.forall_mem_cons.mpr ⟨rfl, htags⟩, ?_⟩
      · have hname : meaning [] [] (ofText (name pair)) = (⟨.text (name pair), []⟩, []) := rfl
        rw [List.map_cons, List.map_cons, meaningPairs]
        simp only [hname, hpair, hmeaning]
        rfl
      · rw [List.filterMap_cons, hentries]
        rfl
  obtain ⟨parts, hmeaning, htags, hentries⟩ := hparts
  refine ⟨entriesOf parts, ?_⟩
  rw [ofPairs, meaning]
  simp only [hmeaning, entriesOf_of_text htags, hentries]
  rfl

end Document

/-! ### The listing -/

namespace Listing

open Node Document

def recordValue (fields : Record) : Value := .mapping (fields.map fun (name, value) ↦ (name, fieldValue value))

theorem value_eq (listing : Listing) :
    listing.value = .mapping [(listing.name, .list (listing.records.map recordValue))] := rfl

theorem hasValue_valueNode (value : FieldValue) : HasValue (valueNode value) (fieldValue value) := by
  cases value with
  | text content => exact hasValue_ofText content
  | texts contents => exact hasValue_ofList fun content _ ↦ hasValue_ofText content

/-- The node of a listing has the listing as its value. -/
theorem hasValue_node (listing : Listing) : HasValue listing.node listing.value := by
  refine hasValue_ofPairs Listing.name (fun listing ↦ ofList (listing.records.map recordNode))
    (fun listing ↦ .list (listing.records.map recordValue)) [listing] ?_
  intro listing _
  apply hasValue_ofList
  intro fields _
  exact hasValue_ofPairs Prod.fst (fun field ↦ valueNode field.2) (fun field ↦ fieldValue field.2) fields fun field _ ↦
    hasValue_valueNode field.2

theorem isBare_valueNode (value : FieldValue) : (valueNode value).IsBare := by
  cases value with
  | text content => exact .text content
  | texts contents =>
    refine .list _ ?_
    intro item hitem
    obtain ⟨content, -, rfl⟩ := List.mem_map.mp hitem
    exact .text content

/-- The node of a listing is made of texts, lists and mappings, without anchors. -/
theorem isBare_node (listing : Listing) : listing.node.IsBare := by
  refine .pairs _ ?_
  intro pair hpair
  obtain rfl := List.mem_singleton.mp hpair
  refine .list _ ?_
  intro item hitem
  obtain ⟨fields, -, rfl⟩ := List.mem_map.mp hitem
  refine .pairs _ ?_
  intro pair hpair
  obtain ⟨field, -, rfl⟩ := List.mem_map.mp hpair
  exact isBare_valueNode field.2

/-- The document of a node with a value, without anchors. -/
theorem ofNode_of_hasValue {node : Node} {value : Value} (hbare : node.IsBare) (hvalue : HasValue node value) :
    Document.ofNode node = ⟨value, []⟩ := by
  obtain ⟨entries, hmeaning⟩ := hvalue
  simp [Document.ofNode, hbare.anchored_eq_nil, hmeaning]

/-- The text of a listing is loaded as the value of the listing with its texts reread.
Assumes: the names in the listing are written plainly, and no record is without fields. -/
theorem load_print (listing : Listing) (hnamed : listing.IsNamed) :
    load listing.print.toList = .ok ⟨listing.reread.value, []⟩ := by
  have hprinted := all_isPrinted_print listing hnamed
  have hmark : dropByteOrderMark listing.print.toList = listing.print.toList := by
    obtain ⟨c, cs, hcs⟩ := List.exists_cons_of_ne_nil hnamed.name.nonempty
    have hletter : Reading.isNameLetter c = true := List.all_eq_true.mp hnamed.name.letters c (by simp [hcs])
    rw [print_toList, hcs, List.cons_append]
    exact if_neg (Reading.narrow_of_isNameLetter hletter).2
  have hbare := isBare_node listing.reread
  simp only [load, isAllowed_of_isPrinted hprinted, if_true, unifyLineEnds_of_isPrinted hprinted, hmark,
    ofGlyphs_print listing hnamed, ofTokens_tokens listing hnamed, bind, Except.bind, check_of_bare hbare]
  exact congrArg Except.ok (ofNode_of_hasValue hbare (hasValue_node listing.reread))

end Listing

end WorkerAdvisor.Yaml
