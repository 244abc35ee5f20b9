import SlidePress.Yaml.Tag
import SlidePress.Yaml.Token

/-! # The nodes of a YAML document

The tree of a document: scalars with their text, sequences, mappings as lists of pairs, and aliases
by name. Every collection has a name of its own: that of its anchor, which is used once in a
document, or one that no anchor can have. An alias may stand inside the node it names.

* `Node`: a node with the line it begins on.
* `Node.all`: all nodes in a node.
* `Document.ofTokens?`: the tree of the one document of a text, or nothing if there is none. -/

namespace SlidePress.Yaml

/-- A node of a document. -/
inductive Node where
  | scalar (line : Nat) (tag : Tag) (text : String)
  | sequence (name : String) (line : Nat) (tag : Tag) (items : List Node)
  | mapping (name : String) (line : Nat) (tag : Tag) (pairs : List (Node × Node))
  | alias (name : String)
  deriving Inhabited

mutual

/-- A node and the nodes in it. -/
def Node.all : Node → List Node
  | .sequence name line tag items => .sequence name line tag items :: allOfItems items
  | .mapping name line tag pairs => .mapping name line tag pairs :: allOfPairs pairs
  | n => [n]
termination_by structural n => n

/-- The nodes in the items of a sequence. -/
def Node.allOfItems : List Node → List Node
  | [] => []
  | n :: ns => all n ++ allOfItems ns
termination_by structural ns => ns

/-- The nodes in the pairs of a mapping. -/
def Node.allOfPairs : List (Node × Node) → List Node
  | [] => []
  | (k, v) :: ps => all k ++ all v ++ allOfPairs ps
termination_by structural ps => ps

end

/-- A document: its tree, and the nodes with an anchor. -/
structure Document where
  root : Node
  anchors : List (String × Node)
  deriving Inhabited

/-- What is known between two tokens. -/
structure Composer where
  rest : List Token
  /-- The beginnings that the handles of tags stand for. -/
  handles : List (String × String)
  /-- The names of anchors met so far. -/
  seen : List String
  /-- The named nodes that are complete. -/
  anchors : List (String × Node)

/-- Reading nodes from tokens. -/
abbrev Compose (α : Type) := StateT Composer (Except Fault) α

namespace Compose

/-- The text is not well formed. -/
def fail {α : Type} : Compose α := throw .malformedYaml

/-- The token that comes next. -/
def peek : Compose Token := do
  match (← get).rest with
  | [] => fail
  | t :: _ =>
    match t.kind with
    | .failure f => throw f
    | _ => return t

/-- Goes behind the next token. -/
def drop : Compose Unit := modify fun s => { s with rest := s.rest.tail }

/-- Whether the next token is of one of some kinds. -/
def nextIs (kinds : List Token.Kind) : Compose Bool := do
  return kinds.contains (← peek).kind

/-- A scalar that is not written. -/
def empty (line : Nat) : Node := .scalar line .null ""

/-- Records the name of an anchor; a name is used once. -/
def declare (name : Option String) : Compose Unit := do
  match name with
  | none => return ()
  | some a =>
    let s ← get
    if s.seen.contains a then fail else set { s with seen := a :: s.seen }

/-- Records a complete node under its name. -/
def name (anchor : Option String) (n : Node) : Compose Node := do
  match anchor with
  | none => return n
  | some a =>
    modify fun s => { s with anchors := (a, n) :: s.anchors }
    return n

/-- The name of the collection that begins here: without an anchor, one that no anchor has and that
tells the place. -/
def nameHere (anchor : Option String) : Compose String := do
  return anchor.getD ("*" ++ toString (← get).rest.length)

/-- The full name of a tag. -/
def fullTag (handle : Option String) (suffix : String) : Compose String := do
  match handle with
  | none => return suffix
  | some h =>
    match (← get).handles.lookup h with
    | some beginning => return beginning ++ suffix
    | none => fail

/-- The anchor and tag in front of a node, in either order, and the line of the first. -/
def properties : Compose (Option String × Option (Option String × String) × Option Nat) := do
  let t ← peek
  match t.kind with
  | .anchor a =>
    drop
    let u ← peek
    match u.kind with
    | .tag h s => drop; return (some a, some (h, s), some t.line)
    | _ => return (some a, none, some t.line)
  | .tag h s =>
    drop
    let u ← peek
    match u.kind with
    | .anchor a => drop; return (some a, some (h, s), some t.line)
    | _ => return (none, some (h, s), some t.line)
  | _ => return (none, none, none)

/-- The tag of a scalar. -/
def scalarTag (tag : Option String) (text : String) (isPlain : Bool) : Tag :=
  match tag with
  | none => if isPlain then Tag.ofPlain text else .str
  | some "!" => Tag.ofPlain text
  | some uri => Tag.ofUri uri

/-- The tag of a collection. -/
def collectionTag (tag : Option String) (usual : Tag) : Tag :=
  match tag with
  | none => usual
  | some "!" => usual
  | some uri => Tag.ofUri uri

mutual

/-- One node. Collections in block style are read where `block` allows them, and a sequence without
an indentation of its own where `flush` does. -/
def node : Nat → Bool → Bool → Compose Node
  | 0, _, _ => fail
  | n + 1, block, flush => do
    let t ← peek
    match t.kind with
    | .alias a =>
      drop
      if (← get).seen.contains a then return .alias a else fail
    | _ =>
      let (anchor, tag, first) ← properties
      let tag ← match tag with
        | some (h, s) => some <$> fullTag h s
        | none => pure none
      let t ← peek
      let line := first.getD t.line
      match t.kind with
      | .scalar text isPlain =>
        drop
        declare anchor
        name anchor (.scalar line (scalarTag tag text isPlain) text)
      | .flowSequenceStart =>
        drop
        declare anchor
        let here ← nameHere anchor
        let items ← flowItems n true []
        name anchor (.sequence here line (collectionTag tag .seq) items)
      | .flowMappingStart =>
        drop
        declare anchor
        let here ← nameHere anchor
        let pairs ← flowPairs n true []
        name anchor (.mapping here line (collectionTag tag .map) pairs)
      | .blockEntry =>
        if flush then
          declare anchor
          let here ← nameHere anchor
          let items ← flushItems n []
          name anchor (.sequence here line (collectionTag tag .seq) items)
        else unwritten anchor tag line
      | .blockSequenceStart =>
        if block then
          drop
          declare anchor
          let here ← nameHere anchor
          let items ← blockItems n []
          name anchor (.sequence here line (collectionTag tag .seq) items)
        else unwritten anchor tag line
      | .blockMappingStart =>
        if block then
          drop
          declare anchor
          let here ← nameHere anchor
          let pairs ← blockPairs n []
          name anchor (.mapping here line (collectionTag tag .map) pairs)
        else unwritten anchor tag line
      | _ => unwritten anchor tag line

/-- A node of which only an anchor or a tag is written. -/
def unwritten (anchor tag : Option String) (line : Nat) : Compose Node := do
  if anchor.isNone && tag.isNone then fail
  else
    declare anchor
    name anchor (.scalar line (scalarTag tag "" true) "")

/-- The items of a block sequence. -/
def blockItems : Nat → List Node → Compose (List Node)
  | 0, _ => fail
  | n + 1, got => do
    let t ← peek
    match t.kind with
    | .blockEntry =>
      drop
      if ← nextIs [.blockEntry, .blockEnd] then blockItems n (empty t.endLine :: got)
      else
        let item ← node n true false
        blockItems n (item :: got)
    | .blockEnd => drop; return got.reverse
    | _ => fail

/-- The items of a block sequence without an indentation of its own. -/
def flushItems : Nat → List Node → Compose (List Node)
  | 0, _ => fail
  | n + 1, got => do
    let t ← peek
    match t.kind with
    | .blockEntry =>
      drop
      if ← nextIs [.blockEntry, .key, .value, .blockEnd] then
        flushItems n (empty t.endLine :: got)
      else
        let item ← node n true false
        flushItems n (item :: got)
    | _ => return got.reverse

/-- The pairs of a block mapping. -/
def blockPairs : Nat → List (Node × Node) → Compose (List (Node × Node))
  | 0, _ => fail
  | n + 1, got => do
    let t ← peek
    match t.kind with
    | .blockEnd => drop; return got.reverse
    | .key =>
      drop
      let k ← if ← nextIs [.key, .value, .blockEnd] then pure (empty t.endLine)
        else node n true true
      let v ← blockValue n
      blockPairs n ((k, v) :: got)
    | _ => fail

/-- The value of a pair in a block mapping. -/
def blockValue : Nat → Compose Node
  | 0 => fail
  | n + 1 => do
    let t ← peek
    match t.kind with
    | .value =>
      drop
      if ← nextIs [.key, .value, .blockEnd] then return empty t.endLine
      else node n true true
    | _ => return empty t.line

/-- The items of a flow sequence. -/
def flowItems : Nat → Bool → List Node → Compose (List Node)
  | 0, _, _ => fail
  | n + 1, first, got => do
    if ← nextIs [.flowSequenceEnd] then drop; return got.reverse
    else
      if !first then
        if ← nextIs [.flowEntry] then drop else fail
      let t ← peek
      match t.kind with
      | .flowSequenceEnd => drop; return got.reverse
      | .key =>
        drop
        let here ← nameHere none
        let k ← if ← nextIs [.value, .flowEntry, .flowSequenceEnd] then pure (empty t.endLine)
          else node n false false
        let v ← flowValue n .flowSequenceEnd
        flowItems n false (.mapping here t.line .map [(k, v)] :: got)
      | _ =>
        let item ← node n false false
        flowItems n false (item :: got)

/-- The value of a pair in a flow collection that ends with `closing`. -/
def flowValue : Nat → Token.Kind → Compose Node
  | 0, _ => fail
  | n + 1, closing => do
    let t ← peek
    match t.kind with
    | .value =>
      drop
      if ← nextIs [.flowEntry, closing] then return empty t.endLine
      else node n false false
    | _ => return empty t.line

/-- The pairs of a flow mapping. -/
def flowPairs : Nat → Bool → List (Node × Node) → Compose (List (Node × Node))
  | 0, _, _ => fail
  | n + 1, first, got => do
    if ← nextIs [.flowMappingEnd] then drop; return got.reverse
    else
      if !first then
        if ← nextIs [.flowEntry] then drop else fail
      let t ← peek
      match t.kind with
      | .flowMappingEnd => drop; return got.reverse
      | .key =>
        drop
        let k ← if ← nextIs [.value, .flowEntry, .flowMappingEnd] then pure (empty t.endLine)
          else node n false false
        let v ← flowValue n .flowMappingEnd
        flowPairs n false ((k, v) :: got)
      | _ =>
        let k ← node n false false
        let u ← peek
        flowPairs n false ((k, empty u.line) :: got)

end

/-- The handles that need no declaration. -/
def usualHandles : List (String × String) := [("!", "!"), ("!!", Tag.base)]

/-- The directives in front of a document: whether a version was given, and the handles. -/
def directives : Nat → Bool → List (String × String) → Compose (List (String × String))
  | 0, _, _ => fail
  | n + 1, versioned, got => do
    let t ← peek
    match t.kind with
    | .directive "YAML" [major, _] =>
      drop
      if versioned || Json.digitsValue major.toList != 1 then fail else directives n true got
    | .directive "TAG" [h, p] =>
      drop
      if (got.lookup h).isSome then fail else directives n versioned ((h, p) :: got)
    | .directive _ _ => drop; directives n versioned got
    | _ => return got

/-- The marks at the ends of documents. -/
def passEnds : Nat → Compose Unit
  | 0 => fail
  | n + 1 => do
    if ← nextIs [.documentEnd] then
      drop
      passEnds n
    else return ()

/-- The one document of a text. -/
def document (n : Nat) : Compose (Option Node) := do
  let t ← peek
  let explicit := match t.kind with
    | .directive _ _ => true
    | .documentStart => true
    | _ => false
  let root ←
    if t.kind = .streamEnd then pure none
    else if explicit then do
      let declared ← directives n false []
      modify fun s => { s with handles := declared ++ usualHandles }
      let t ← peek
      if t.kind = .documentStart then drop else fail
      let u ← peek
      let bare := match u.kind with
        | .directive _ _ => true
        | .documentStart => true
        | .documentEnd => true
        | .streamEnd => true
        | _ => false
      if bare then pure (some (empty u.line)) else some <$> node n true false
    else some <$> node n true false
  if root.isSome then
    passEnds n
    let u ← peek
    if u.kind = .streamEnd then return root else fail
  else return none

end Compose

/-- The one document of a text, or nothing if the text holds none. -/
def Document.ofTokens? (ts : List Token) : Attempt (Option Document) := do
  let (root, s) ← (Compose.document (2 * ts.length + 2)).run ⟨ts, Compose.usualHandles, [], []⟩
  return root.map fun r => ⟨r, s.anchors⟩

/-- The one document of a text, or nothing if the text holds none. -/
def Document.ofText? (s : String) : Attempt (Option Document) :=
  if refused s then .error .malformedYaml else Document.ofTokens? (tokens s)

end SlidePress.Yaml
