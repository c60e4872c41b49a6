import WorkerAdvisor.Yaml.Tag
import WorkerAdvisor.Yaml.Token

/-!
Nodes of a YAML document, and how they are made of tokens.

A node is a scalar, a sequence, a mapping, or an alias for the node that carries an anchor. An anchor is carried
by one node at most, and an alias comes after the start of the node that it stands for, perhaps inside it.
-/

set_option autoImplicit false

namespace WorkerAdvisor.Yaml

/-- A node of a document. -/
inductive Node
  | scalar (anchor : Option String) (tag : Tag) (content : String)
  | sequence (anchor : Option String) (tag : Tag) (items : List Node)
  | mapping (anchor : Option String) (tag : Tag) (pairs : List (Node × Node))
  | aliasFor (anchor : String)

namespace Node

/-- The node where nothing is written. -/
def nothing : Node := scalar none .null ""

/-- How a node is tagged where its tag is written out. -/
inductive Tagging
  /-- The tag `!`, which leaves the kind to the form of the node. -/
  | byForm
  | as (tag : Tag)

def scalarTag (tagging : Option Tagging) (content : String) (plain : Bool) : Tag :=
  match tagging with
  | some (.as tag) => tag
  | some .byForm => Tag.ofForm content
  | none => if plain then Tag.ofForm content else .text

/-- The tag of a collection that has the tag `usual` if none is written. -/
def collectionTag (tagging : Option Tagging) (usual : Tag) : Tag :=
  match tagging with
  | some (.as tag) => tag
  | _ => usual

/-- The handles that tags may begin with, and what they abbreviate. -/
abbrev Handles := List (String × String)

def usualHandles : Handles := [("!", "!"), ("!!", Tag.commonStart)]

/-- What is left to read, and the anchors so far. -/
structure Progress where
  rest : List Token
  anchors : List String

/-- The fault of a text whose next token cannot stand where it does. -/
def unexpected (rest : List Token) : Fault :=
  match rest with
  | .broken fault :: _ => fault
  | _ => .malformed

def Progress.note (p : Progress) (anchor : Option String) : Except Fault Progress :=
  match anchor with
  | none => .ok p
  | some name => if p.anchors.contains name then .error .malformed else .ok { p with anchors := name :: p.anchors }

def tagging (handles : Handles) (handle : Option String) (suffix : String) : Except Fault Tagging :=
  match handle with
  | none => .ok (if suffix = "!" then .byForm else .as (Tag.ofName suffix))
  | some handle =>
    match handles.lookup handle with
    | none => .error .malformed
    | some start => .ok (if start ++ suffix = "!" then .byForm else .as (Tag.ofName (start ++ suffix)))

def properties (handles : Handles) (rest : List Token) :
    Except Fault (Option String × Option Tagging × List Token) :=
  match rest with
  | .anchor name :: .tag handle suffix :: rest =>
    (tagging handles handle suffix).map fun t ↦ (some name, some t, rest)
  | .anchor name :: rest => .ok (some name, none, rest)
  | .tag handle suffix :: .anchor name :: rest =>
    (tagging handles handle suffix).map fun t ↦ (some name, some t, rest)
  | .tag handle suffix :: rest => (tagging handles handle suffix).map fun t ↦ (none, some t, rest)
  | rest => .ok (none, none, rest)

/-- Where a node may stand. -/
structure Setting where
  /-- Whether it may be a block collection. -/
  block : Bool
  /-- Whether it may be a block sequence that is not indented further than what surrounds it. -/
  indentless : Bool

def inFlow : Setting := ⟨false, false⟩
def inBlock : Setting := ⟨true, false⟩
def inBlockMapping : Setting := ⟨true, true⟩

def endsBlockItem : Token → Bool
  | .blockEntry | .blockEnd => true
  | _ => false

def endsIndentlessItem : Token → Bool
  | .blockEntry | .key | .value | .blockEnd => true
  | _ => false

def endsBlockPart : Token → Bool
  | .key | .value | .blockEnd => true
  | _ => false

def endsFlowKey : Token → Bool
  | .value | .flowEntry | .flowMappingEnd => true
  | _ => false

def endsFlowValue : Token → Bool
  | .flowEntry | .flowMappingEnd => true
  | _ => false

def endsPairKey : Token → Bool
  | .value | .flowEntry | .flowSequenceEnd => true
  | _ => false

def endsPairValue : Token → Bool
  | .flowEntry | .flowSequenceEnd => true
  | _ => false

/-- Goes past the comma before an item of a flow collection; there is none before the first item. -/
def comma (first : Bool) (rest : List Token) : Except Fault (List Token) :=
  if first then .ok rest
  else match rest with
    | .flowEntry :: rest => .ok rest
    | rest => .error (unexpected rest)

/-- The node where only an anchor or a tag is written. -/
def emptyNode (anchor : Option String) (tagging : Option Tagging) (p : Progress) :
    Except Fault (Node × Progress) :=
  if anchor.isSome || tagging.isSome then do
    let p ← p.note anchor
    return (scalar anchor (scalarTag tagging "" true) "", p)
  else .error (unexpected p.rest)

mutual

/-- Reads a node. -/
def read (handles : Handles) : (steps : Nat) → Setting → Progress → Except Fault (Node × Progress)
  | 0, _, _ => .error .malformed
  | steps + 1, setting, p =>
    match p.rest with
    | .aliasFor name :: rest =>
      if p.anchors.contains name then .ok (aliasFor name, { p with rest }) else .error .malformed
    | _ => do
      let (anchor, tagging, rest) ← properties handles p.rest
      let collection (tag : Tag) (rest : List Token)
          (readItems : Progress → Except Fault (List Node × Progress)) : Except Fault (Node × Progress) := do
        let (items, p) ← readItems (← { p with rest }.note anchor)
        return (sequence anchor (collectionTag tagging tag) items, p)
      let association (rest : List Token)
          (readPairs : Progress → Except Fault (List (Node × Node) × Progress)) :
          Except Fault (Node × Progress) := do
        let (pairs, p) ← readPairs (← { p with rest }.note anchor)
        return (mapping anchor (collectionTag tagging .mapping) pairs, p)
      match rest with
      | .blockEntry :: _ =>
        if setting.indentless then collection .sequence rest (readIndentless handles steps)
        else emptyNode anchor tagging { p with rest }
      | .scalar content plain :: rest =>
        let p ← { p with rest }.note anchor
        return (scalar anchor (scalarTag tagging content plain) content, p)
      | .flowSequenceStart :: rest => collection .sequence rest (readFlowItems handles steps true)
      | .flowMappingStart :: rest => association rest (readFlowPairs handles steps true)
      | .blockSequenceStart :: others =>
        if setting.block then collection .sequence others (readBlockItems handles steps)
        else emptyNode anchor tagging { p with rest }
      | .blockMappingStart :: others =>
        if setting.block then association others (readBlockPairs handles steps)
        else emptyNode anchor tagging { p with rest }
      | rest => emptyNode anchor tagging { p with rest }

/-- Reads a node, or nothing if the next token ends the place of the node. -/
def readOrNothing (handles : Handles) :
    (steps : Nat) → Setting → (ends : Token → Bool) → Progress → Except Fault (Node × Progress)
  | 0, _, _, _ => .error .malformed
  | steps + 1, setting, ends, p =>
    match p.rest with
    | token :: _ => if ends token then .ok (nothing, p) else read handles steps setting p
    | [] => .error .malformed

def readValue (handles : Handles) :
    (steps : Nat) → Setting → (ends : Token → Bool) → Progress → Except Fault (Node × Progress)
  | 0, _, _, _ => .error .malformed
  | steps + 1, setting, ends, p =>
    match p.rest with
    | .value :: rest => readOrNothing handles steps setting ends { p with rest }
    | _ => .ok (nothing, p)

/-- Reads the items of a block sequence up to its end. -/
def readBlockItems (handles : Handles) : (steps : Nat) → Progress → Except Fault (List Node × Progress)
  | 0, _ => .error .malformed
  | steps + 1, p =>
    match p.rest with
    | .blockEntry :: rest => do
      let (item, p) ← readOrNothing handles steps inBlock endsBlockItem { p with rest }
      let (items, p) ← readBlockItems handles steps p
      return (item :: items, p)
    | .blockEnd :: rest => .ok ([], { p with rest })
    | rest => .error (unexpected rest)

/-- Reads the items of a block sequence that nothing but the next token ends. -/
def readIndentless (handles : Handles) : (steps : Nat) → Progress → Except Fault (List Node × Progress)
  | 0, _ => .error .malformed
  | steps + 1, p =>
    match p.rest with
    | .blockEntry :: rest => do
      let (item, p) ← readOrNothing handles steps inBlock endsIndentlessItem { p with rest }
      let (items, p) ← readIndentless handles steps p
      return (item :: items, p)
    | _ => .ok ([], p)

/-- Reads the pairs of a block mapping up to its end. -/
def readBlockPairs (handles : Handles) :
    (steps : Nat) → Progress → Except Fault (List (Node × Node) × Progress)
  | 0, _ => .error .malformed
  | steps + 1, p =>
    match p.rest with
    | .key :: rest => do
      let (key, p) ← readOrNothing handles steps inBlockMapping endsBlockPart { p with rest }
      let (value, p) ← readValue handles steps inBlockMapping endsBlockPart p
      let (pairs, p) ← readBlockPairs handles steps p
      return ((key, value) :: pairs, p)
    | .blockEnd :: rest => .ok ([], { p with rest })
    | rest => .error (unexpected rest)

/-- Reads the items of a flow sequence up to its end. A pair among them is a mapping of its own. -/
def readFlowItems (handles : Handles) :
    (steps : Nat) → (first : Bool) → Progress → Except Fault (List Node × Progress)
  | 0, _, _ => .error .malformed
  | steps + 1, first, p =>
    match p.rest with
    | .flowSequenceEnd :: rest => .ok ([], { p with rest })
    | rest => do
      match ← comma first rest with
      | .flowSequenceEnd :: rest => return ([], { p with rest })
      | .key :: rest =>
        let (key, p) ← readOrNothing handles steps inFlow endsPairKey { p with rest }
        let (value, p) ← readValue handles steps inFlow endsPairValue p
        let (items, p) ← readFlowItems handles steps false p
        return (mapping none .mapping [(key, value)] :: items, p)
      | rest =>
        let (item, p) ← read handles steps inFlow { p with rest }
        let (items, p) ← readFlowItems handles steps false p
        return (item :: items, p)

/-- Reads the pairs of a flow mapping up to its end. A node alone is a key without a value. -/
def readFlowPairs (handles : Handles) :
    (steps : Nat) → (first : Bool) → Progress → Except Fault (List (Node × Node) × Progress)
  | 0, _, _ => .error .malformed
  | steps + 1, first, p =>
    match p.rest with
    | .flowMappingEnd :: rest => .ok ([], { p with rest })
    | rest => do
      match ← comma first rest with
      | .flowMappingEnd :: rest => return ([], { p with rest })
      | .key :: rest =>
        let (key, p) ← readOrNothing handles steps inFlow endsFlowKey { p with rest }
        let (value, p) ← readValue handles steps inFlow endsFlowValue p
        let (pairs, p) ← readFlowPairs handles steps false p
        return ((key, value) :: pairs, p)
      | rest =>
        let (key, p) ← read handles steps inFlow { p with rest }
        let (pairs, p) ← readFlowPairs handles steps false p
        return ((key, nothing) :: pairs, p)

end

/-! ### The stream -/

/-- The handles that the directives before a document give, and what is left after them. `version` tells
whether the version has been given. -/
def directives (version : Bool) (handles : Handles) : List Token → Except Fault (Handles × List Token)
  | .directive (.version major _) :: rest =>
    if version || major ≠ 1 then .error .malformed else directives true handles rest
  | .directive (.tagHandle handle start) :: rest =>
    if (handles.lookup handle).isSome then .error .malformed
    else directives version (handles ++ [(handle, start)]) rest
  | .directive .reserved :: rest => directives version handles rest
  | rest => .ok (handles, rest)

/-- The rest of a stream after its document: only marks of a document's end may follow. -/
def streamEnd : List Token → Except Fault Unit
  | [] => .ok ()
  | .documentEnd :: rest => streamEnd rest
  | rest => .error (unexpected rest)

/-- The bound on the number of nested calls of the readers, given the tokens to read. -/
def stepBound (tokens : List Token) : Nat := 4 * tokens.length + 4

/-- The only document of a stream of tokens, if there is one. -/
def ofTokens (tokens : List Token) : Except Fault (Option Node) := do
  match tokens with
  | [] => return none
  | .directive _ :: _ | .documentStart :: _ =>
    let (given, rest) ← directives false [] tokens
    match rest with
    | .documentStart :: rest =>
      match rest with
      | [] => return some nothing
      | .directive _ :: _ | .documentStart :: _ | .documentEnd :: _ =>
        streamEnd rest
        return some nothing
      | rest =>
        let (node, p) ← read (given ++ usualHandles) (stepBound rest) inBlock ⟨rest, []⟩
        streamEnd p.rest
        return some node
    | rest => .error (unexpected rest)
  | rest =>
    let (node, p) ← read usualHandles (stepBound rest) inBlock ⟨rest, []⟩
    streamEnd p.rest
    return some node

end Node

end WorkerAdvisor.Yaml
