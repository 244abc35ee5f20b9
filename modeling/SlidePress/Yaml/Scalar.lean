import SlidePress.Json.Reader
import SlidePress.Yaml.Cursor

/-! # Scalars as they are written

The four written forms of a scalar: plain, in single quotes, in double quotes, and as a block of
lines. Each function reads one scalar at a cursor and gives its text and the place behind it. Line
ends inside a scalar are folded: a single one becomes a blank, of several the first is dropped.

* `plain?`: a plain scalar.
* `quoted?`: a scalar in quotes; `escape?` reads one escape of a double-quoted scalar.
* `block?`: a literal or folded block. -/

namespace SlidePress.Yaml

/-- A scalar's text and the place behind it. -/
abbrev Scanned := List Char × Cursor

/-! ### Plain scalars -/

/-- Whether a plain scalar ends before this character. -/
def endsPlain (flow : Bool) (a : Char) (following : Char) : Bool :=
  isGap a ||
    (a == ':' && (isGap following || (flow && [',', '[', ']', '{', '}'].contains following))) ||
    (flow && [',', '?', '[', ']', '{', '}'].contains a)

/-- The characters up to the next gap or end of a plain scalar. -/
def plainWord (flow : Bool) : List Char → List Char
  | [] => []
  | a :: r => if endsPlain flow a (r.headD '\x00') then [] else a :: plainWord flow r

/-- Line ends and blanks between the words of a plain scalar; none where a document mark stands at
the beginning of a line. -/
def plainBreaks : Nat → List Char → Cursor → Option (List Char) × Cursor
  | 0, got, c => (some got.reverse, c)
  | n + 1, got, c =>
    if c.peek == ' ' then plainBreaks n got c.next
    else
      match c.lineBreak? with
      | some (b, d) => if d.atDocumentMark then (none, d) else plainBreaks n (b :: got) d
      | none => (some got.reverse, c)

/-- What one line end followed by others is folded to. -/
def fold (first : Char) (others : List Char) : List Char :=
  (if first != '\n' then [first] else if others.isEmpty then [' '] else []) ++ others

/-- The space between two words of a plain scalar: its text, whether a line ended, and the place
behind it. -/
def plainSpace (c : Cursor) : List Char × Bool × Cursor :=
  let blanks := c.run (· == ' ')
  let c := c.passBlanks
  match c.lineBreak? with
  | none => (blanks, false, c)
  | some (b, d) =>
    if d.atDocumentMark then ([], true, d)
    else
      match plainBreaks (d.rest.length + 1) [] d with
      | (none, e) => ([], true, e)
      | (some breaks, e) => (fold b breaks, true, e)

/-- The words of a plain scalar; `space` is the space before the next word, `broken` tells whether
a line ended in the space read last. -/
def plainWords (flow : Bool) (indent : Int) :
    Nat → List Char → List Char → Bool → Cursor → List Char × Bool × Cursor
  | 0, got, _, broken, c => (got, broken, c)
  | n + 1, got, space, broken, c =>
    if c.peek == '#' then (got, broken, c)
    else
      let word := plainWord flow c.rest
      if word.isEmpty then (got, broken, c)
      else
        let got := got ++ space ++ word
        let (space, broken, d) := plainSpace (c.skip word.length)
        if space.isEmpty || d.peek == '#' || (!flow && (d.column : Int) < indent) then
          (got, broken, d)
        else plainWords flow indent n got space broken d

/-- A plain scalar: its text, whether it ended with a line, and the place behind it. -/
def plain (flow : Bool) (indent : Int) (c : Cursor) : List Char × Bool × Cursor :=
  plainWords flow indent (c.rest.length + 1) [] [] false c

/-! ### Scalars in quotes -/

/-- The characters that a letter after a backslash stands for. -/
def escapeLetters : List (Char × Char) :=
  [('0', '\x00'), ('a', '\x07'), ('b', '\x08'), ('t', '\t'), ('\t', '\t'), ('n', '\n'),
    ('v', '\x0b'), ('f', '\x0c'), ('r', '\r'), ('e', '\x1b'), (' ', ' '), ('"', '"'), ('\\', '\\'),
    ('/', '/'), ('N', '\x85'), ('_', '\xa0'), ('L', '\u2028'), ('P', '\u2029')]

/-- How many hexadecimal digits follow a letter after a backslash. -/
def escapeWidths : List (Char × Nat) := [('x', 2), ('u', 4), ('U', 8)]

/-- The number written by hexadecimal digits. -/
def hexNumber? (cs : List Char) : Option Nat :=
  cs.foldlM (fun n c => (Json.hexValue? c).map fun d => n * 16 + d) 0

/-- The character with a given number. -/
def numberedChar (n : Nat) : Attempt Char :=
  if n < 0x110000 then .ok (Json.unitChar n)
  else if n < 0x80000000 then .error .badValue
  else .error .overflow

/-- Line ends and blanks inside quotes; a document mark is refused. -/
def quotedBreaks : Nat → List Char → Cursor → Attempt (List Char × Cursor)
  | 0, got, c => .ok (got.reverse, c)
  | n + 1, got, c =>
    if c.atDocumentMark then .error .malformedYaml
    else
      let c := c.pass fun a => a == ' ' || a == '\t'
      match c.lineBreak? with
      | some (b, d) => quotedBreaks n (b :: got) d
      | none => .ok (got.reverse, c)

/-- What a backslash and the text behind it stand for; the cursor is behind the backslash. -/
def escape? (c : Cursor) : Attempt Scanned :=
  match escapeLetters.lookup c.peek with
  | some a => .ok ([a], c.next)
  | none =>
    match escapeWidths.lookup c.peek with
    | some width =>
      let digits := c.next.rest.take width
      if digits.length < width then .error .malformedYaml
      else
        match hexNumber? digits with
        | some n => do
          let a ← numberedChar n
          .ok ([a], c.next.skip width)
        | none => .error .malformedYaml
    | none =>
      match c.lineBreak? with
      | some (_, d) => quotedBreaks (d.rest.length + 1) [] d
      | none => .error .malformedYaml

/-- The space between two words in quotes. -/
def quotedSpace (c : Cursor) : Attempt Scanned :=
  let blank (a : Char) : Bool := a == ' ' || a == '\t'
  let blanks := c.run blank
  let c := c.pass blank
  if isEnd c.peek then .error .malformedYaml
  else
    match c.lineBreak? with
    | none => .ok (blanks, c)
    | some (b, d) => do
      let (breaks, e) ← quotedBreaks (d.rest.length + 1) [] d
      .ok (fold b breaks, e)

/-- The rest of a scalar in quotes; `got` holds its text so far, last character first. -/
def quotedRest (quote : Char) : Nat → List Char → Cursor → Attempt Scanned
  | 0, _, _ => .error .malformedYaml
  | n + 1, got, c =>
    let a := c.peek
    if a == quote then
      if quote == '\'' && c.peekAt 1 == '\'' then quotedRest quote n ('\'' :: got) (c.skip 2)
      else .ok (got.reverse, c.next)
    else if quote == '"' && a == '\\' then do
      let (text, d) ← escape? c.next
      quotedRest quote n (text.reverse ++ got) d
    else if isGap a then do
      let (text, d) ← quotedSpace c
      quotedRest quote n (text.reverse ++ got) d
    else quotedRest quote n (a :: got) c.next

/-- A scalar in quotes; the cursor is at the opening quote. -/
def quoted? (c : Cursor) : Attempt Scanned := quotedRest c.peek (c.rest.length + 1) [] c.next

/-! ### Blocks -/

/-- What happens to the line ends at the end of a block. -/
inductive Chomp where
  | clip
  | strip
  | keep
  deriving DecidableEq

/-- The sign in a block header. -/
def chomp? (a : Char) : Option Chomp :=
  if a == '+' then some .keep else if a == '-' then some .strip else none

/-- The header of a block: how it ends, and the indentation given in it. -/
def blockHeader? (c : Cursor) : Attempt (Chomp × Option Nat × Cursor) := do
  let digit? (c : Cursor) : Attempt (Option Nat × Cursor) :=
    if c.peek.isDigit then
      if c.peek == '0' then .error .malformedYaml else .ok (some (c.peek.toNat - 48), c.next)
    else .ok (none, c)
  let (mode, width, c) ← match chomp? c.peek with
    | some mode => do
      let (width, c) ← digit? c.next
      pure (mode, width, c)
    | none => do
      let (width, c) ← digit? c
      match width, chomp? c.peek with
      | some _, some mode => pure (mode, width, c.next)
      | _, _ => pure (Chomp.clip, width, c)
  if isGapOrBlank c.peek then
    match c.passLine? with
    | some c => .ok (mode, width, c)
    | none => .error .malformedYaml
  else .error .malformedYaml

/-- The empty lines before a block whose indentation is not given: their line ends, the widest
indentation, and the place behind them. -/
def leadingLines : Nat → List Char → Nat → Cursor → List Char × Nat × Cursor
  | 0, got, widest, c => (got.reverse, widest, c)
  | n + 1, got, widest, c =>
    if c.peek == ' ' then leadingLines n got (Nat.max widest (c.column + 1)) c.next
    else
      match c.lineBreak? with
      | some (b, d) => leadingLines n (b :: got) widest d
      | none => (got.reverse, widest, c)

/-- Behind blanks, up to a column. -/
def passIndent (indent : Nat) (c : Cursor) : Cursor :=
  c.skip (Nat.min (indent - c.column) (c.run (· == ' ')).length)

/-- The empty lines between the lines of a block. -/
def blockBreaks (indent : Nat) : Nat → List Char → Cursor → List Char × Cursor
  | 0, got, c => (got.reverse, c)
  | n + 1, got, c =>
    let c := passIndent indent c
    match c.lineBreak? with
    | some (b, d) => blockBreaks indent n (b :: got) d
    | none => (got.reverse, c)

/-- The lines of a block from one line on: text, last line end, line ends behind it. -/
def blockLines (folded : Bool) (indent : Nat) :
    Nat → List Char → List Char → Cursor → List Char × List Char × List Char × Cursor
  | 0, got, breaks, c => (got, [], breaks, c)
  | n + 1, got, breaks, c =>
    let text := c.run fun a => !endsLine a
    let got := got ++ breaks ++ text
    let flush := c.peek != ' ' && c.peek != '\t'
    let c := c.skip text.length
    let (ending, c) := match c.lineBreak? with
      | some (b, d) => ([b], d)
      | none => ([], c)
    let (breaks, c) := blockBreaks indent (c.rest.length + 1) [] c
    if c.column == indent && !isEnd c.peek then
      if folded && ending == ['\n'] && flush && c.peek != ' ' && c.peek != '\t' then
        blockLines folded indent n (if breaks.isEmpty then got ++ [' '] else got) breaks c
      else blockLines folded indent n (got ++ ending) breaks c
    else (got, ending, breaks, c)

/-- A block; the cursor is at its indicator, and `indent` is the indentation around it. -/
def block? (indent : Int) (c : Cursor) : Attempt Scanned := do
  let folded := c.peek == '>'
  let (mode, width, c) ← blockHeader? c.next
  let least : Nat := Nat.max 1 (indent + 1).toNat
  let (column, breaks, c) := match width with
    | some w =>
      let column := least + w - 1
      let (breaks, c) := blockBreaks column (c.rest.length + 1) [] c
      (column, breaks, c)
    | none =>
      let (breaks, widest, c) := leadingLines (c.rest.length + 1) [] 0 c
      (Nat.max least widest, breaks, c)
  let (text, ending, breaks, c) :=
    if c.column == column && !isEnd c.peek then
      blockLines folded column (c.rest.length + 1) [] breaks c
    else ([], [], breaks, c)
  let tail := match mode with
    | .strip => []
    | .clip => ending
    | .keep => ending ++ breaks
  .ok (text ++ tail, c)

end SlidePress.Yaml
