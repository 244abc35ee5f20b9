import SlidePress.Number.Read
import SlidePress.Value.Basic
import SlidePress.Yaml.Node

/-! # The data of a YAML document

Values are built from nodes level by level: a collection is there before its content is, so of two
faults in a document the one nearer to the root is reported, and on one level the one that comes
first. A build therefore carries the level of its fault, and `Build.all` picks the fault that
counts.

Pairs under a merge key are put in front of the pairs of their mapping, and of two equal keys the
later pair wins. An alias to a collection it stands in is built as an occurrence of the collection
inside itself.

* `Document.data`: the value of a document.
* `Document.itemLines`: where the items of the top-level sequence with a given name begin.
* `load`: the value of a text. -/

namespace SlidePress.Yaml

/-- A result, or a fault with its level. -/
abbrev Build (α : Type) := Except (Nat × Fault) α

namespace Build

/-- A result whose fault lies on a given level. -/
def atLevel {α : Type} (level : Nat) : Attempt α → Build α
  | .ok a => .ok a
  | .error f => .error (level, f)

/-- The faults among some results. -/
def faults {α : Type} : List (Build α) → List (Nat × Fault)
  | [] => []
  | .ok _ :: rs => faults rs
  | .error e :: rs => e :: faults rs

/-- The fault of the lowest level, the first of several. -/
def first : List (Nat × Fault) → Option (Nat × Fault)
  | [] => none
  | e :: es =>
    match first es with
    | some e' => if e'.1 < e.1 then some e' else some e
    | none => some e

/-- The results of several builds, or the fault that counts. -/
def all {α : Type} (rs : List (Build α)) : Build (List α) :=
  match first (faults rs) with
  | some e => .error e
  | none => .ok (rs.filterMap fun r =>
      match r with
      | .ok a => some a
      | .error _ => none)

end Build

namespace Document

/-- The node an alias stands for, and any other node itself. -/
def target (d : Document) : Node → Node
  | .alias a => (d.anchors.lookup a).getD (.alias a)
  | n => n

/-- The line on which a node begins, from 0. -/
def lineOf (d : Document) (n : Node) : Nat :=
  match d.target n with
  | .scalar line _ _ => line
  | .sequence _ line _ _ => line
  | .mapping _ line _ _ => line
  | .alias _ => 0

/-- The tag of a node. -/
def tagOf (d : Document) (n : Node) : Tag :=
  match d.target n with
  | .scalar _ t _ => t
  | .sequence _ _ t _ => t
  | .mapping _ _ t _ => t
  | .alias _ => .unknown

/-- The text of a node: of a scalar its own, of a mapping that of the value which stands for it. -/
def textOf (d : Document) : Nat → Node → Attempt String
  | 0, _ => .error .tooDeep
  | n + 1, node =>
    match d.target node with
    | .scalar _ _ s => .ok s
    | .mapping _ _ _ pairs =>
      match pairs.find? fun p => d.tagOf p.1 == .value with
      | some p => textOf d n p.2
      | none => .error .malformedYaml
    | _ => .error .malformedYaml

/-- The key of the value that stands for a mapping is an ordinary text where pairs are built. -/
def plainKey (d : Document) (k : Node) : Node :=
  match d.target k with
  | .scalar line .value s => .scalar line .str s
  | _ => k

mutual

/-- The pairs of a mapping with the pairs under its merge keys in front. `opened` names the mappings
that are being merged: one inside itself contributes only its own pairs. -/
def flatten (d : Document) : Nat → List String → List (Node × Node) →
    Attempt (List (Node × Node))
  | 0, _, _ => .error .tooDeep
  | n + 1, opened, pairs => do
    let own := pairs.filter fun p => d.tagOf p.1 != .merge
    let merges := pairs.filter fun p => d.tagOf p.1 == .merge
    let merged ← merges.mapM fun p => mergeFrom d n opened p.2
    return merged.flatten ++ own.map fun p => (d.plainKey p.1, p.2)

/-- The pairs under one merge key. -/
def mergeFrom (d : Document) : Nat → List String → Node → Attempt (List (Node × Node))
  | 0, _, _ => .error .tooDeep
  | n + 1, opened, v =>
    match d.target v with
    | .mapping name _ _ pairs => flattenNamed d n opened name pairs
    | .sequence _ _ _ items => do
      let parts ← items.mapM fun i =>
        match d.target i with
        | .mapping name _ _ pairs => flattenNamed d n opened name pairs
        | _ => .error .malformedYaml
      return parts.reverse.flatten
    | _ => .error .malformedYaml

/-- The pairs of a mapping with a name. -/
def flattenNamed (d : Document) : Nat → List String → String → List (Node × Node) →
    Attempt (List (Node × Node))
  | 0, _, _, _ => .error .tooDeep
  | n + 1, opened, name, pairs =>
    if opened.contains name then
      .ok ((pairs.filter fun p => d.tagOf p.1 != .merge).map fun p => (d.plainKey p.1, p.2))
    else flatten d n (name :: opened) pairs

end

/-! ### Scalars -/

/-- The truth values by their words. -/
def boolOf? (s : String) : Option Bool :=
  [("yes", true), ("no", false), ("true", true), ("false", false), ("on", true),
    ("off", false)].lookup (String.ofList (s.toList.map Char.toLower))

/-- The parts of a text between colons. -/
def colonParts (cs : List Char) : List (List Char) :=
  cs.foldr (fun c parts =>
    match parts with
    | p :: ps => if c == ':' then [] :: p :: ps else (c :: p) :: ps
    | [] => [[c]]) [[]]

/-- A sign of a number, and the rest. -/
def signOf (cs : List Char) : Bool × List Char := Number.readSign cs

/-- An integer in the notation its beginning shows. -/
def intOf (s : String) : Attempt Int := do
  let cs := s.toList.filter (· != '_')
  if cs.isEmpty then .error .noIndex
  else
    let (negative, body) := signOf cs
    let signed (n : Int) : Int := if negative then -n else n
    let read (base : Nat) (ds : List Char) : Attempt Int :=
      (Attempt.ofOption .badValue (Number.readInt base ds)).map signed
    match body with
    | ['0'] => .ok 0
    | '0' :: 'b' :: r => read 2 r
    | '0' :: 'x' :: r => read 16 r
    | '0' :: _ => read 8 body
    | [] => .error .noIndex
    | _ =>
      if body.contains ':' then do
        let parts ← (colonParts body).mapM fun p => Attempt.ofOption .badValue (Number.readInt 10 p)
        return signed (parts.foldl (fun total p => total * 60 + p) 0)
      else read 10 body

/-- The sum of doubles that count units, sixties and so on; `place` is what the first one counts. -/
def sumOfSixties : Int → Float → List Float → Attempt Float
  | _, total, [] => .ok total
  | place, total, p :: ps => do
    let unit ← Attempt.ofOption .overflow (Number.ofInt? place)
    sumOfSixties (place * 60) (total + p * unit) ps

/-- A double in plain notation or in base sixty. -/
def floatOf (s : String) : Attempt Float := do
  let cs := (s.toList.filter (· != '_')).map Char.toLower
  if cs.isEmpty then .error .noIndex
  else
    let (negative, body) := signOf cs
    let signed (x : Float) : Float := if negative then -x else x
    let read (ds : List Char) : Attempt Float := Attempt.ofOption .badValue (Number.readFloat ds)
    if body == ".inf".toList then .ok (signed Number.infinity)
    else if body == ".nan".toList then .ok Number.notANumber
    else if body.contains ':' then do
      let parts ← (colonParts body).mapM read
      return signed (← sumOfSixties 1 0.0 parts.reverse)
    else (read body).map signed

/-- The six bits of a character of base sixty-four text. -/
def sixBits? (c : Char) : Option Nat :=
  if 'A' ≤ c ∧ c ≤ 'Z' then some (c.toNat - 65)
  else if 'a' ≤ c ∧ c ≤ 'z' then some (c.toNat - 71)
  else if '0' ≤ c ∧ c ≤ '9' then some (c.toNat + 4)
  else if c = '+' then some 62
  else if c = '/' then some 63
  else none

/-- Bytes in base sixty-four: `held` is the last character's bits in a group of `place` characters,
`pads` counts the padding signs in a row. Characters outside the alphabet are passed over. -/
def base64Rest : Nat → Nat → Nat → List UInt8 → List Char → Option (List UInt8)
  | place, _, _, got, [] => if place = 0 then some got.reverse else none
  | place, held, pads, got, c :: r =>
    if c = '=' then
      if 2 ≤ place ∧ 4 ≤ place + pads + 1 then some got.reverse
      else base64Rest place held (if 2 ≤ place then pads + 1 else pads) got r
    else
      match sixBits? c with
      | none => base64Rest place held pads got r
      | some b =>
        match place with
        | 0 => base64Rest 1 b 0 got r
        | 1 => base64Rest 2 (b % 16) 0 ((held * 4 + b / 16).toUInt8 :: got) r
        | 2 => base64Rest 3 (b % 4) 0 ((held * 16 + b / 4).toUInt8 :: got) r
        | _ => base64Rest 0 0 0 ((held * 64 + b).toUInt8 :: got) r

/-- Bytes in base sixty-four. -/
def bytesOf (s : String) : Attempt (List UInt8) :=
  if s.toList.any fun c => 128 ≤ c.toNat then .error .malformedYaml
  else Attempt.ofOption .malformedYaml (base64Rest 0 0 0 [] s.toList)

/-- A date or a point in time. -/
def timeOf (s : String) : Attempt Value := do
  let cs := s.toList
  let cs := if cs.getLast? == some '\n' then cs.dropLast else cs
  let p ← Attempt.ofOption .noAttribute (Tag.timeParts? cs)
  let num := Json.digitsValue
  let date? := Date.of? (num p.year) (num p.month) (num p.day)
  match p.clock with
  | none => (Attempt.ofOption .badValue date?).map .date
  | some (h, m, sec) =>
    let micro := num ((p.fraction.take 6) ++ List.replicate (6 - p.fraction.length) '0')
    let offset : Option Int := p.zone.map fun z =>
      match z with
      | none => 0
      | some (west, h, m) =>
        let o : Int := num h * 3600 + num m * 60
        if west then -o else o
    let date ← Attempt.ofOption .badValue date?
    (Attempt.ofOption .badValue (Timestamp.of? date (num h) (num m) (num sec) micro offset)).map
      .timestamp

/-- The value of a scalar with a tag. -/
def scalarOf (tag : Tag) (s : String) : Attempt Value :=
  match tag with
  | .null => .ok .null
  | .bool => (Attempt.ofOption .noKey (boolOf? s)).map .bool
  | .int => (intOf s).map .int
  | .float => (floatOf s).map .float
  | .str => .ok (.str s)
  | .binary => (bytesOf s).map .bytes
  | .timestamp => timeOf s
  | _ => .error .malformedYaml

/-! ### Values -/

/-- The key and value of a sequence item that has to be a mapping of one pair. -/
def onePair (d : Document) (n : Node) : Attempt (Node × Node) :=
  match d.target n with
  | .mapping _ _ _ [p] => .ok p
  | _ => .error .malformedYaml

/-- The elements of a list two by two. -/
def pairUp : List Value → Entries
  | a :: b :: r => (a, b) :: pairUp r
  | _ => []

/-- A fault of a collection's content. -/
def misfit {α : Type} (level : Nat) : Build α := .error (level + 1, .malformedYaml)

/-- The name of a collection. -/
def nameOf : Node → Option String
  | .sequence name _ _ _ => some name
  | .mapping name _ _ _ => some name
  | _ => none

/-- A key: a collection cannot be one. -/
def buildKey (d : Document) (level : Nat) (child : Node → Build Value) (k : Node) : Build Value :=
  if (d.tagOf k).isCollection then misfit level else child k

/-- The entries of a mapping with the given pairs. -/
def buildEntries (d : Document) (level : Nat) (child : Node → Build Value)
    (pairs : List (Node × Node)) : Build Entries := do
  let parts ← Build.all (pairs.flatMap fun p => [d.buildKey level child p.1, child p.2])
  return Entries.ofPairs (pairUp parts)

/-- The pairs of a sequence of mappings of one pair each. -/
def buildPairs (d : Document) (level : Nat) (child : Node → Build Value) (items : List Node) :
    Build (List Value) := do
  let parts ← Build.all (items.flatMap fun i =>
    match d.onePair i with
    | .ok p => [child p.1, child p.2]
    | .error _ => [misfit level])
  return (pairUp parts).map fun p => .tuple [p.1, p.2]

/-- The value of a node whose children are built by `child`. -/
def buildStep (d : Document) (fuel level : Nat) (child : Node → Build Value) (node : Node) :
    Build Value :=
  let tag := d.tagOf node
  match tag, d.target node with
  | .seq, .sequence _ _ _ items => do
    return .list (← Build.all (items.map child))
  | .map, .mapping name _ _ pairs => do
    let pairs ← Build.atLevel (level + 1) (d.flatten fuel [name] pairs)
    return .map (← d.buildEntries level child pairs)
  | .set, .mapping name _ _ pairs => do
    let pairs ← Build.atLevel (level + 1) (d.flatten fuel [name] pairs)
    return .set ((← d.buildEntries level child pairs).map Prod.fst)
  | .omap, .sequence _ _ _ items => do
    return .list (← d.buildPairs level child items)
  | .pairs, .sequence _ _ _ items => do
    return .list (← d.buildPairs level child items)
  | _, _ =>
    if tag.isCollection then misfit level
    else if tag == .unknown || tag == .merge || tag == .value then .error (level, .malformedYaml)
    else Build.atLevel level (do scalarOf tag (← d.textOf fuel node))

/-- The value of a node. `opened` holds the names of the collections the node stands in, the
innermost first; `level` is its distance from the root. -/
def build (d : Document) : Nat → List (Option String) → Nat → Node → Build Value
  | 0, _, level, _ => .error (level, .tooDeep)
  | fuel + 1, opened, level, node =>
    let name := nameOf (d.target node)
    match name.bind fun a => opened.findIdx? (· == some a) with
    | some up => .ok (.again up (d.tagOf node == .map))
    | none => d.buildStep fuel level (build d fuel (name :: opened) (level + 1)) node

/-- All nodes of a document. -/
def nodes (d : Document) : List Node := d.root.all ++ d.anchors.flatMap fun a => a.2.all

/-- More steps than any way through the document has: a way passes each collection at most once, and
so does the merging at its end. -/
def bound (d : Document) : Nat := 4 * (d.nodes.length + 2)

theorem exists_bound (d : Document) : ∃ m, d.bound = m + 2 :=
  ⟨4 * d.nodes.length + 6, by rw [bound]; omega⟩

/-- The value of a document. -/
def data (d : Document) : Attempt Value :=
  match d.build d.bound [] 0 d.root with
  | .ok v => .ok v
  | .error (_, f) => .error f

/-- The pairs of the top-level mapping, merged pairs in front. -/
def rootPairs (d : Document) : List (Node × Node) :=
  match d.target d.root with
  | .mapping name _ _ pairs =>
    match d.flatten d.bound [name] pairs with
    | .ok pairs => pairs
    | .error _ => []
  | _ => []

/-- Whether a node is a scalar with a given text. -/
def isScalar (d : Document) (text : String) (n : Node) : Bool :=
  match d.target n with
  | .scalar _ _ s => s == text
  | _ => false

/-- The lines, from 1, on which the items of a top-level sequence begin: of the first pair with the
given name, nothing where its value is no sequence. -/
def itemLines (d : Document) (name : String) : List Nat :=
  match d.rootPairs.find? fun p => d.isScalar name p.1 with
  | some (_, v) =>
    match d.target v with
    | .sequence _ _ _ items => items.map fun i => d.lineOf i + 1
    | _ => []
  | none => []

end Document

/-- The value of a text; null for a text without a document. -/
def load (s : String) : Attempt Value := do
  match ← Document.ofText? s with
  | some d => d.data
  | none => .ok .null

end SlidePress.Yaml
