import WorkerAdvisor.Field.Integer
import WorkerAdvisor.Yaml.Node
import WorkerAdvisor.Yaml.Scalar

/-!
The value of a document.

`Document.ofNode` gives a node its value. A mapping takes over the entries of the mappings under its merge
keys; its own entries come after them and so win. An alias stands for the value of its anchor, but inside that
value it stays an alias, which `Document.resolve` follows.

A node can have no value at all. The nodes are examined level by level, each collection after all that were
found before it, and the first fault decides (`Document.check`).

Some details are left open. Documents may be nested to any depth. The members of a set come in the order in which
they first occur, the texts before the others, and two times of one day are the same member. A mapping that has the
tag of a scalar, a date among them, is read by its default key.
-/

set_option autoImplicit false

namespace WorkerAdvisor.Yaml

namespace Node

def isCollectionTag : Tag → Bool
  | .sequence | .mapping | .set | .orderedPairs | .pairs => true
  | _ => false

def size : Node → Nat
  | scalar .. | aliasFor _ => 1
  | sequence _ _ items => 1 + sizeItems items
  | mapping _ _ pairs => 1 + sizePairs pairs
where
  sizeItems : List Node → Nat
    | [] => 0
    | item :: items => size item + sizeItems items
  sizePairs : List (Node × Node) → Nat
    | [] => 0
    | (key, value) :: pairs => size key + size value + sizePairs pairs

/-- A node under its anchor, if it carries one, before further anchored nodes. -/
def underAnchor (anchor : Option String) (node : Node) (others : List (String × Node)) : List (String × Node) :=
  match anchor with
  | none => others
  | some name => (name, node) :: others

/-- The nodes that carry an anchor, with their anchors. -/
def anchored : Node → List (String × Node)
  | scalar anchor tag content => underAnchor anchor (scalar anchor tag content) []
  | aliasFor _ => []
  | .sequence anchor tag items => underAnchor anchor (sequence anchor tag items) (anchoredItems items)
  | mapping anchor tag pairs => underAnchor anchor (mapping anchor tag pairs) (anchoredPairs pairs)
where
  anchoredItems : List Node → List (String × Node)
    | [] => []
    | item :: items => anchored item ++ anchoredItems items
  anchoredPairs : List (Node × Node) → List (String × Node)
    | [] => []
    | (key, value) :: pairs => anchored key ++ anchored value ++ anchoredPairs pairs

/-- The node itself, or the node that it is an alias for. -/
def target (anchors : List (String × Node)) : Node → Node
  | aliasFor name => (anchors.lookup name).getD nothing
  | node => node

def tag : Node → Tag
  | scalar _ tag _ | sequence _ tag _ | mapping _ tag _ => tag
  | aliasFor _ => .unknown

def anchor? : Node → Option String
  | scalar anchor _ _ | sequence anchor _ _ | mapping anchor _ _ => anchor
  | aliasFor name => some name

/-- The text of a node that should be a scalar. A mapping counts as the value of its default key. -/
def scalarContent (anchors : List (String × Node)) : (steps : Nat) → Node → Option String
  | 0, _ => none
  | steps + 1, node =>
    match node with
    | scalar _ _ content => some content
    | mapping _ _ pairs =>
      match pairs.find? fun (key, _) ↦ (target anchors key).tag == .default with
      | some (_, value) => scalarContent anchors steps (target anchors value)
      | none => none
    | _ => none

end Node

namespace Document

open Node

/-! ### Faults -/

/-- The pairs of a mapping after merging: those that its merge keys bring in, and then its own, where the
default key is a key like any other. `seen` holds the anchors of the mappings that are being merged. -/
def mergedPairs (anchors : List (String × Node)) :
    (steps : Nat) → (seen : List String) → List (Node × Node) → Except Fault (List (Node × Node))
  | 0, _, pairs => .ok pairs
  | steps + 1, seen, pairs => do
    let fromMapping (node : Node) : Except Fault (List (Node × Node)) :=
      match target anchors node with
      | mapping anchor _ pairs =>
        match anchor with
        | some name =>
          if seen.contains name then .ok [] else mergedPairs anchors steps (name :: seen) pairs
        | none => mergedPairs anchors steps seen pairs
      | _ => .error .malformed
    let sources ← pairs.mapM fun (key, value) ↦
      if (target anchors key).tag = .merge then
        match target anchors value with
        | .sequence _ _ items => do
          let parts ← items.mapM fromMapping
          return parts.reverse.flatten
        | _ => fromMapping value
      else .ok []
    let own := pairs.filterMap fun (key, value) ↦
      match target anchors key with
      | scalar anchor .default content => some (scalar anchor .text content, value)
      | key => if key.tag = .merge then none else some (key, value)
    return sources.flatten ++ own

/-- The fault of a node that shows before its parts are examined. -/
def ownFault (anchors : List (String × Node)) (bound : Nat) (node : Node) : Except Fault Unit :=
  match node.tag with
  | .merge | .default | .unknown => .error .malformed
  | tag =>
    if isCollectionTag tag then .ok ()
    else match scalarContent anchors bound node with
      | none => .error .malformed
      | some content => (Scalar.value tag content).map fun _ ↦ ()

/-- Collections that wait for their parts to be examined, and the anchors of those that were found. -/
structure Queue where
  waiting : List Node
  found : List String

/-- Examines a node, and notes it if it is a collection that was not found before. -/
def visit (anchors : List (String × Node)) (bound : Nat) (queue : Queue) (node : Node) :
    Except Fault Queue := do
  let node := target anchors node
  ownFault anchors bound node
  if isCollectionTag node.tag then
    match node.anchor? with
    | some name =>
      if queue.found.contains name then return queue
      else return ⟨queue.waiting ++ [node], name :: queue.found⟩
    | none => return ⟨queue.waiting ++ [node], queue.found⟩
  else return queue

/-- Examines a key, which may not be a collection, and a value. -/
def visitPair (anchors : List (String × Node)) (bound : Nat) (queue : Queue) (pair : Node × Node) :
    Except Fault Queue := do
  let queue ← visit anchors bound queue pair.1
  if isCollectionTag (target anchors pair.1).tag then .error .malformed
  else visit anchors bound queue pair.2

/-- Examines a member of a list of pairs, which must be a mapping of one pair. -/
def visitMember (anchors : List (String × Node)) (bound : Nat) (queue : Queue) (member : Node) :
    Except Fault Queue :=
  match target anchors member with
  | mapping _ _ [(key, value)] => do
    let queue ← visit anchors bound queue key
    visit anchors bound queue value
  | _ => .error .malformed

def visitParts (anchors : List (String × Node)) (bound : Nat) (queue : Queue) (node : Node) :
    Except Fault Queue :=
  match node.tag, node with
  | .mapping, mapping anchor _ pairs | .set, mapping anchor _ pairs => do
    let pairs ← mergedPairs anchors bound anchor.toList pairs
    pairs.foldlM (visitPair anchors bound) queue
  | .sequence, .sequence _ _ items => items.foldlM (visit anchors bound) queue
  | .orderedPairs, .sequence _ _ items | .pairs, .sequence _ _ items =>
    items.foldlM (visitMember anchors bound) queue
  | _, _ => .error .malformed

/-- Examines the waiting collections one after the other. -/
def visitAll (anchors : List (String × Node)) (bound : Nat) : (steps : Nat) → Queue → Except Fault Unit
  | 0, _ => .ok ()
  | steps + 1, queue =>
    match queue.waiting with
    | [] => .ok ()
    | node :: waiting => do
      let queue ← visitParts anchors bound { queue with waiting } node
      visitAll anchors bound steps queue

/-- Whether a node has a value; if not, why. Merging can bring a node before the eyes several times, but not
more often than there are pairs of nodes. -/
def check (node : Node) : Except Fault Unit := do
  let anchors := node.anchored
  let queue ← visit anchors (node.size + 1) ⟨[], []⟩ node
  visitAll anchors (node.size + 1) ((node.size + 1) * (node.size + 1)) queue

/-! ### Values -/

/-- The value of a node, and the entries that it brings into a mapping under a merge key of which it is the
value. -/
structure Meaning where
  value : Value
  entries : List (String × Value)

/-- The meanings of the anchored nodes that are complete. -/
abbrev Meanings := List (String × Meaning)

/-- Notes the meaning of a node under its anchor. -/
def note (known : Meanings) (anchor : Option String) (meaning : Meaning) : Meaning × Meanings :=
  match anchor with
  | none => (meaning, known)
  | some name => (meaning, (name, meaning) :: known)

/-- The entry for a key and a value; a key that is no text names nothing. -/
def entry? (key value : Value) : Option (String × Value) :=
  match key with
  | .text name => some (name, value)
  | _ => none

/-- One pair of a mapping after its parts have got their meanings. -/
structure PairMeaning where
  keyTag : Tag
  key : Meaning
  value : Meaning

/-- The entries of a mapping: those that are merged in, and then its own. -/
def entriesOf (pairs : List PairMeaning) : List (String × Value) :=
  (pairs.filter (·.keyTag == .merge)).flatMap (·.value.entries) ++
    (pairs.filter (·.keyTag != .merge)).filterMap fun pair ↦
      if pair.keyTag = .default then some ("=", pair.value.value) else entry? pair.key.value pair.value.value

/-- The whole number that a key is equal to. A truth value counts as one or zero. -/
def wholeKey? : Value → Option Int
  | .boolean truth => some truth.toInt
  | .integer number => some number
  | .real number => Field.wholeNumber? number
  | _ => none

/-- Whether two keys that are no texts are one key. -/
def isSameKey : Value → Value → Bool
  | .null, .null => true
  | .bytes first, .bytes second => first == second
  | .calendar year month day, .calendar year' month' day' => year == year' && month == month' && day == day'
  | first, second =>
    match wholeKey? first, wholeKey? second, first, second with
    | some number, some number', _, _ => number == number'
    | none, none, .real number, .real number' => number.toBits == number'.toBits
    | _, _, _, _ => false

/-- The members of a set: its keys, each once, the texts before the others. -/
def membersOf (pairs : List PairMeaning) : List Value :=
  let others := (pairs.filter (·.keyTag != .merge)).filterMap fun pair ↦
    match pair.key.value with
    | .text _ => none
    | key => some key
  ((entriesOf pairs).map (·.1)).eraseDups.map .text ++ others.eraseDupsBy isSameKey

/-- The meaning of a scalar. Without a value it counts as nothing, but then the document has a fault. -/
def scalarMeaning (tag : Tag) (content : String) : Meaning :=
  match Scalar.value tag content with
  | .ok value => ⟨value, []⟩
  | .error _ => ⟨.null, []⟩

/-- The value of a mapping that has the tag of a scalar: that of its default key. -/
def defaultMeaning (pairs : List PairMeaning) : Value :=
  match pairs.find? (·.keyTag == .default) with
  | some pair => pair.value.value
  | none => .null

def keyTag (tags : List (String × Tag)) : Node → Tag
  | aliasFor name => (tags.lookup name).getD .unknown
  | node => node.tag

mutual

/-- The meaning of a node, and the meanings of the anchored nodes up to its end. `tags` gives the tags of all
anchored nodes. -/
def meaning (tags : List (String × Tag)) (known : Meanings) : Node → Meaning × Meanings
  | scalar anchor tag content => note known anchor (scalarMeaning tag content)
  | aliasFor name => ((known.lookup name).getD ⟨.enclosing name, []⟩, known)
  | .sequence anchor tag items =>
    let (parts, known) := meaningItems tags known items
    let value := if tag = .orderedPairs ∨ tag = .pairs then
        .list (parts.map fun part ↦ .list (part.entries.map (·.2)))
      else .list (parts.map (·.value))
    note known anchor ⟨value, (parts.reverse.map (·.entries)).flatten⟩
  | mapping anchor tag pairs =>
    let (parts, known) := meaningPairs tags known pairs
    let value := if tag = .mapping then .mapping (entriesOf parts)
      else if tag = .set then .set (membersOf parts)
      else defaultMeaning parts
    note known anchor ⟨value, entriesOf parts⟩

def meaningItems (tags : List (String × Tag)) (known : Meanings) : List Node → List Meaning × Meanings
  | [] => ([], known)
  | item :: items =>
    let (part, known) := meaning tags known item
    let (parts, known) := meaningItems tags known items
    (part :: parts, known)

def meaningPairs (tags : List (String × Tag)) (known : Meanings) :
    List (Node × Node) → List PairMeaning × Meanings
  | [] => ([], known)
  | (key, value) :: pairs =>
    let tag := keyTag tags key
    let (keyPart, known) := meaning tags known key
    let (valuePart, known) := meaning tags known value
    let (parts, known) := meaningPairs tags known pairs
    (⟨tag, keyPart, valuePart⟩ :: parts, known)

end

end Document

/-- The value of a document, with the values that carry an anchor. -/
structure Document where
  root : Value
  shared : List (String × Value)

namespace Document

/-- The value itself, or the collection around it that it stands for. -/
def resolve (document : Document) : Value → Value
  | .enclosing anchor => (document.shared.lookup anchor).getD .null
  | value => value

def ofNode (node : Node) : Document :=
  let tags := node.anchored.map fun (name, node) ↦ (name, node.tag)
  let (whole, known) := meaning tags [] node
  ⟨whole.value, known.map fun (name, meaning) ↦ (name, meaning.value)⟩

def empty : Document := ⟨.null, []⟩

end Document

end WorkerAdvisor.Yaml
