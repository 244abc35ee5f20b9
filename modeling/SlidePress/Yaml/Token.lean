import SlidePress.Yaml.Scalar

/-! # Tokens of a YAML text

The tokens of a text: indicators, scalars, and the marks that block collections begin and end.
Indentation decides where a block collection begins and ends. A simple key is recognised only when
the colon behind it is seen, so its `key` token, and the beginning of its mapping, are put into the
list of tokens at the place where the key began; every place where one could begin is remembered
until the line ends, and a place where one has to be found is an error when it ends first.

* `Lexer.step`: reads one token.
* `tokens`: the tokens of a text; where the text goes wrong the last one is a failure. -/

namespace SlidePress.Yaml

/-- What a token is. -/
inductive Token.Kind where
  | streamEnd
  | directive (name : String) (arguments : List String)
  | documentStart
  | documentEnd
  | blockSequenceStart
  | blockMappingStart
  | blockEnd
  | flowSequenceStart
  | flowMappingStart
  | flowSequenceEnd
  | flowMappingEnd
  | blockEntry
  | flowEntry
  | key
  | value
  | alias (name : String)
  | anchor (name : String)
  | tag (handle : Option String) (suffix : String)
  | scalar (text : String) (isPlain : Bool)
  | failure (f : Fault)
  deriving DecidableEq, Repr, Inhabited

/-- A token with the lines on which it begins and ends, from 0. -/
structure Token where
  kind : Token.Kind
  line : Nat
  endLine : Nat
  deriving DecidableEq, Repr, Inhabited

/-- A place where a simple key may have begun. -/
structure KeyPlace where
  /-- How many tokens precede it. -/
  position : Nat
  /-- Whether a key has to begin here. -/
  required : Bool
  index : Nat
  line : Nat
  column : Nat
  deriving Inhabited

/-- The state between two tokens. -/
structure Lexer where
  place : Cursor
  /-- How many flow collections are open. -/
  depth : Nat
  /-- The indentation of the innermost block collection, `-1` outside all. -/
  indent : Int
  /-- The indentations around it, innermost first. -/
  outer : List Int
  /-- Whether a simple key may begin here. -/
  keyAllowed : Bool
  /-- The places where a key may have begun, by the number of open flow collections. -/
  keys : List (Nat × KeyPlace)
  /-- The tokens read, last one first. -/
  got : List Token
  /-- How many tokens have been read. -/
  count : Nat
  /-- Whether the end of the text has been reached. -/
  done : Bool
  deriving Inhabited

namespace Lexer

/-- Before the first token; a byte order mark at the beginning of the text is passed over. -/
def start (s : String) : Lexer :=
  let c := Cursor.start s
  ⟨if c.peek == '\uFEFF' then c.next else c, 0, -1, [], true, [], [], 0, false⟩

/-- Adds a token. -/
def push (kind : Token.Kind) (line endLine : Nat) (l : Lexer) : Lexer :=
  { l with got := ⟨kind, line, endLine⟩ :: l.got, count := l.count + 1 }

/-- Adds a token in front of the one with the given position. -/
def insertAt (position : Nat) (kind : Token.Kind) (line : Nat) (l : Lexer) : Lexer :=
  let back := l.count - position
  { l with
    got := l.got.take back ++ ⟨kind, line, line⟩ :: l.got.drop back
    count := l.count + 1 }

/-- Adds a token of one or more characters and goes behind it. -/
def advance (kind : Token.Kind) (width : Nat) (l : Lexer) : Lexer :=
  { l.push kind l.place.line l.place.line with place := l.place.skip width }

/-- Adds a token that ends at `c`. -/
def advanceTo (kind : Token.Kind) (c : Cursor) (l : Lexer) : Lexer :=
  { l.push kind l.place.line c.line with place := c }

/-- Sets whether a simple key may begin here. -/
def allowKey (b : Bool) (l : Lexer) : Lexer := { l with keyAllowed := b }

/-- Forgets the places where a key may have begun that are on another line or too far back; one
where a key is required is an error. -/
def dropStale (l : Lexer) : Attempt Lexer := do
  let stale (k : KeyPlace) : Bool := k.line != l.place.line || 1024 < l.place.index - k.index
  if l.keys.any fun k => stale k.2 && k.2.required then .error .malformedYaml
  else .ok { l with keys := l.keys.filter fun k => !stale k.2 }

/-- Forgets the place where a key may have begun at the present depth. -/
def dropKey (l : Lexer) : Attempt Lexer :=
  match l.keys.lookup l.depth with
  | some k =>
    if k.required then .error .malformedYaml
    else .ok { l with keys := l.keys.filter fun e => e.1 != l.depth }
  | none => .ok l

/-- Remembers that a key may begin here. -/
def saveKey (l : Lexer) : Attempt Lexer := do
  if l.keyAllowed then
    let required := l.depth == 0 && l.indent == (l.place.column : Int)
    let l ← l.dropKey
    let k : KeyPlace := ⟨l.count, required, l.place.index, l.place.line, l.place.column⟩
    .ok { l with keys := (l.depth, k) :: l.keys }
  else .ok l

/-- Ends the block collections indented deeper than `column`. -/
def unwindFrom (column : Int) : List Int → Lexer → Lexer
  | [], l => l
  | i :: outer, l =>
    if column < l.indent then
      unwindFrom column outer
        { l.push .blockEnd l.place.line l.place.line with indent := i, outer := outer }
    else l

/-- Ends the block collections indented deeper than `column`, unless a flow collection is open. -/
def unwind (column : Int) (l : Lexer) : Lexer :=
  if l.depth = 0 then unwindFrom column l.outer l else l

/-- Whether a block collection begins at this column. -/
def opens (column : Nat) (l : Lexer) : Bool := l.indent < (column : Int)

/-- Makes a column the indentation of a new block collection. -/
def indentTo (column : Nat) (l : Lexer) : Lexer :=
  { l with indent := column, outer := l.indent :: l.outer }

/-- Goes over blanks, comments and line ends to the next token. -/
def passGap : Nat → Lexer → Lexer
  | 0, l => l
  | n + 1, l =>
    let c := l.place.passComment
    match c.lineBreak? with
    | some (_, d) =>
      passGap n { l with place := d, keyAllowed := l.keyAllowed || l.depth == 0 }
    | none => { l with place := c }

/-! ### Tags, anchors and directives -/

/-- A character of a tag. -/
def isUriChar (c : Char) : Bool :=
  c.isAlphanum || "-;/?:@&=+$,_.!~*'()[]%".toList.contains c

/-- Percent escapes at the cursor, as bytes. -/
def uriBytes : Nat → List UInt8 → Cursor → Attempt (List UInt8 × Cursor)
  | 0, got, c => .ok (got.reverse, c)
  | n + 1, got, c =>
    if c.peek == '%' then
      match Json.hexValue? (c.peekAt 1), Json.hexValue? (c.peekAt 2) with
      | some a, some b => uriBytes n ((a * 16 + b).toUInt8 :: got) (c.skip 3)
      | _, _ => .error .malformedYaml
    else .ok (got.reverse, c)

/-- The characters of a tag with its escapes decoded. -/
def uriRest : Nat → List Char → Cursor → Attempt Scanned
  | 0, got, c => .ok (got, c)
  | n + 1, got, c =>
    if !isUriChar c.peek then .ok (got, c)
    else if c.peek == '%' then do
      let (bytes, c) ← uriBytes (c.rest.length + 1) [] c
      match String.fromUTF8? ⟨bytes.toArray⟩ with
      | some s => uriRest n (got ++ s.toList) c
      | none => .error .malformedYaml
    else uriRest n (got ++ [c.peek]) c.next

/-- The characters of a tag, at least one. -/
def uri (c : Cursor) : Attempt (String × Cursor) := do
  let (cs, d) ← uriRest (c.rest.length + 1) [] c
  if cs.isEmpty then .error .malformedYaml else .ok (String.ofList cs, d)

/-- A handle: `!`, or a name between two of them. -/
def handle (c : Cursor) : Attempt (String × Cursor) :=
  if c.peek != '!' then .error .malformedYaml
  else if c.peekAt 1 == ' ' then .ok ("!", c.next)
  else
    let name := c.next.run isNameChar
    let d := c.next.skip name.length
    if d.peek == '!' then .ok (String.ofList ('!' :: name ++ ['!']), d.next)
    else .error .malformedYaml

/-- The name of an anchor or alias; the cursor is at its indicator. -/
def anchorName (c : Cursor) : Attempt (String × Cursor) :=
  let name := c.next.run isNameChar
  let d := c.next.skip name.length
  if name.isEmpty then .error .malformedYaml
  else if isGap d.peek || "?:,]\x7d%@\x60".toList.contains d.peek then .ok (String.ofList name, d)
  else .error .malformedYaml

/-- Whether a tag has a handle with a name. -/
def hasHandle : List Char → Bool
  | [] => false
  | c :: r => if isGapOrBlank c then false else if c == '!' then true else hasHandle r

/-- A tag; the cursor is at its exclamation mark. -/
def tag (c : Cursor) : Attempt (Token.Kind × Cursor) := do
  let (kind, d) ←
    if c.peekAt 1 == '<' then do
      let (suffix, d) ← uri (c.skip 2)
      if d.peek == '>' then pure (Token.Kind.tag none suffix, d.next) else .error .malformedYaml
    else if isGap (c.peekAt 1) then pure (Token.Kind.tag none "!", c.next)
    else do
      let (name, d) ← if hasHandle c.next.rest then handle c else pure ("!", c.next)
      let (suffix, d) ← uri d
      pure (Token.Kind.tag (some name) suffix, d)
  if isGapOrBlank d.peek then .ok (kind, d) else .error .malformedYaml

/-- The number of a version. -/
def versionNumber (c : Cursor) : Attempt (String × Cursor) :=
  let ds := c.run Char.isDigit
  if ds.isEmpty then .error .malformedYaml
  else if Number.digitLimit < ds.length then .error .badValue
  else .ok (String.ofList ds, c.skip ds.length)

/-- The arguments of a directive. -/
def directiveArguments (name : String) (c : Cursor) : Attempt (List String × Cursor) := do
  if name == "YAML" then
    let (major, c) ← versionNumber c.passBlanks
    if c.peek != '.' then .error .malformedYaml
    else
      let (minor, c) ← versionNumber c.next
      if isGapOrBlank c.peek then .ok ([major, minor], c) else .error .malformedYaml
  else if name == "TAG" then
    let (h, c) ← handle c.passBlanks
    if c.peek != ' ' then .error .malformedYaml
    else
      let (p, c) ← uri c.passBlanks
      if isGapOrBlank c.peek then .ok ([h, p], c) else .error .malformedYaml
  else .ok ([], c.pass fun a => !endsLine a)

/-- A directive; the cursor is at its percent sign. -/
def directive (c : Cursor) : Attempt (Token.Kind × Cursor) := do
  let name := c.next.run isNameChar
  let d := c.next.skip name.length
  if name.isEmpty || !isGapOrBlank d.peek then .error .malformedYaml
  else
    let (arguments, d) ← directiveArguments (String.ofList name) d
    match d.passLine? with
    | some d => .ok (.directive (String.ofList name) arguments, d)
    | none => .error .malformedYaml

/-! ### One token -/

/-- Before a directive or a mark between documents: all block collections end. -/
def outermost (l : Lexer) : Attempt Lexer := (l.unwind (-1)).dropKey

/-- A token that may be a simple key and after which none may begin. -/
def asKey (kind : Token.Kind) (c : Cursor) (l : Lexer) : Attempt Lexer := do
  let l ← l.saveKey
  .ok ((l.allowKey false).advanceTo kind c)

/-- The entry mark of a block sequence. -/
def blockEntry (l : Lexer) : Attempt Lexer := do
  let l ←
    if l.depth = 0 then
      if !l.keyAllowed then .error .malformedYaml
      else if l.opens l.place.column then
        pure ((l.indentTo l.place.column).push .blockSequenceStart l.place.line l.place.line)
      else pure l
    else pure l
  let l ← (l.allowKey true).dropKey
  .ok (l.advance .blockEntry 1)

/-- The mark in front of a key. -/
def keyMark (l : Lexer) : Attempt Lexer := do
  let l ←
    if l.depth = 0 then
      if !l.keyAllowed then .error .malformedYaml
      else if l.opens l.place.column then
        pure ((l.indentTo l.place.column).push .blockMappingStart l.place.line l.place.line)
      else pure l
    else pure l
  let l ← (l.allowKey (l.depth == 0)).dropKey
  .ok (l.advance .key 1)

/-- The colon in front of a value: what stands before it may turn out to be a simple key. -/
def valueMark (l : Lexer) : Attempt Lexer := do
  match l.keys.lookup l.depth with
  | some k =>
    let l := { l with keys := l.keys.filter fun e => e.1 != l.depth }
    let l := l.insertAt k.position .key k.line
    let l :=
      if l.depth == 0 && l.opens k.column then
        (l.indentTo k.column).insertAt k.position .blockMappingStart k.line
      else l
    .ok ((l.allowKey false).advance .value 1)
  | none =>
    let l ←
      if l.depth = 0 then
        if !l.keyAllowed then .error .malformedYaml
        else if l.opens l.place.column then
          pure ((l.indentTo l.place.column).push .blockMappingStart l.place.line l.place.line)
        else pure l
      else pure l
    let l ← (l.allowKey (l.depth == 0)).dropKey
    .ok (l.advance .value 1)

/-- Whether a plain scalar may begin here. -/
def startsPlain (l : Lexer) : Bool :=
  let a := l.place.peek
  (!isGap a && !"-?:,[]\x7b\x7d#&*!|>'\"%@\x60".toList.contains a) ||
    (!isGap (l.place.peekAt 1) && (a == '-' || (l.depth == 0 && (a == '?' || a == ':'))))

/-- A plain scalar. -/
def plainScalar (l : Lexer) : Attempt Lexer := do
  let l ← l.saveKey
  let (text, broken, c) := plain (l.depth != 0) (l.indent + 1) l.place
  .ok ((l.allowKey broken).advanceTo (.scalar (String.ofList text) true) c)

/-- Reads one token. -/
def step (l : Lexer) : Attempt Lexer := do
  let l := l.passGap (l.place.rest.length + 1)
  let l ← l.dropStale
  let l := l.unwind l.place.column
  let c := l.place
  let a := c.peek
  let gapNext := isGap (c.peekAt 1)
  if isEnd a then
    let l ← l.outermost
    .ok { l.push .streamEnd c.line c.line with keys := [], done := true }
  else if a == '%' && c.column == 0 then
    let l ← l.outermost
    let (kind, d) ← directive c
    .ok ((l.allowKey false).advanceTo kind d)
  else if c.column == 0 && c.atMark '-' then
    let l ← l.outermost
    .ok ((l.allowKey false).advance .documentStart 3)
  else if c.column == 0 && c.atMark '.' then
    let l ← l.outermost
    .ok ((l.allowKey false).advance .documentEnd 3)
  else if a == '[' || a == '{' then
    let l ← l.saveKey
    let l := { l with depth := l.depth + 1, keyAllowed := true }
    .ok (l.advance (if a == '[' then .flowSequenceStart else .flowMappingStart) 1)
  else if a == ']' || a == '}' then
    let l ← l.dropKey
    let l := { l with depth := l.depth - 1, keyAllowed := false }
    .ok (l.advance (if a == ']' then .flowSequenceEnd else .flowMappingEnd) 1)
  else if a == ',' then
    let l ← (l.allowKey true).dropKey
    .ok (l.advance .flowEntry 1)
  else if a == '-' && gapNext then l.blockEntry
  else if a == '?' && (l.depth != 0 || gapNext) then l.keyMark
  else if a == ':' && (l.depth != 0 || gapNext) then l.valueMark
  else if a == '*' || a == '&' then
    let (name, d) ← anchorName c
    l.asKey (if a == '*' then .alias name else .anchor name) d
  else if a == '!' then
    let (kind, d) ← tag c
    l.asKey kind d
  else if (a == '|' || a == '>') && l.depth == 0 then
    let l ← (l.allowKey true).dropKey
    let (text, d) ← block? l.indent c
    .ok (l.advanceTo (.scalar (String.ofList text) false) d)
  else if a == '\'' || a == '"' then
    let l ← l.saveKey
    let (text, d) ← quoted? c
    .ok ((l.allowKey false).advanceTo (.scalar (String.ofList text) false) d)
  else if l.startsPlain then l.plainScalar
  else .error .malformedYaml

/-- Reads tokens up to the end of the text or to the first failure. -/
def runFrom : Nat → Lexer → List Token
  | 0, l => l.got.reverse
  | n + 1, l =>
    if l.done then l.got.reverse
    else
      match l.step with
      | .ok l => runFrom n l
      | .error f => (l.push (.failure f) l.place.line l.place.line).got.reverse

end Lexer

/-- The tokens of a text. -/
def tokens (s : String) : List Token :=
  let l := Lexer.start s
  Lexer.runFrom (l.place.rest.length + 2) l

end SlidePress.Yaml
