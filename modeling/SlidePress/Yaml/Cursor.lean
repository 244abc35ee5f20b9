import SlidePress.Fault

/-! # A place in a YAML text

A cursor is the rest of a text together with the index, line and column of its first character.
Behind the end of the text stands a null character, which no text may hold: a text with a character
that is not printable is refused before it is read (`refused`).

* `Cursor.next`: one character further; a line end resets the column.
* `Cursor.lineBreak?`: a line end of any spelling; most become a line feed. -/

namespace SlidePress.Yaml

/-- A character that may stand in a YAML text. -/
def isAllowed (c : Char) : Bool :=
  let n := c.toNat
  n == 9 || n == 10 || n == 13 || (0x20 ≤ n && n ≤ 0x7E) || n == 0x85 || (0xA0 ≤ n && n ≤ 0xFFFD) ||
    0x10000 ≤ n

/-- A text that is refused without being read. -/
def refused (s : String) : Bool := s.toList.any fun c => !isAllowed c

/-- A line end, alone or as the first character of one. -/
def isBreak (c : Char) : Bool :=
  c == '\n' || c == '\r' || c == '\x85' || c == '\u2028' || c == '\u2029'

/-- The end of the text. -/
def isEnd (c : Char) : Bool := c == '\x00'

/-- A line end or the end of the text. -/
def endsLine (c : Char) : Bool := isBreak c || isEnd c

/-- A character after which an indicator counts: blank, tab, line end or end of the text. -/
def isGap (c : Char) : Bool := c == ' ' || c == '\t' || endsLine c

/-- A character after which a tag or a header counts as ended. -/
def isGapOrBlank (c : Char) : Bool := c == ' ' || endsLine c

/-- A letter, digit, hyphen or underscore. -/
def isNameChar (c : Char) : Bool := c.isAlphanum || c == '-' || c == '_'

/-- A place in a text. -/
structure Cursor where
  rest : List Char
  index : Nat
  line : Nat
  column : Nat
  deriving Inhabited

namespace Cursor

/-- The beginning of a text. -/
def start (s : String) : Cursor := ⟨s.toList, 0, 0, 0⟩

/-- The character at the cursor. -/
def peek (c : Cursor) : Char := c.rest.headD '\x00'

/-- The character a number of places further. -/
def peekAt (c : Cursor) (n : Nat) : Char := (c.rest.drop n).headD '\x00'

/-- One character further. -/
def next (c : Cursor) : Cursor :=
  match c.rest with
  | [] => c
  | a :: r =>
    if a == '\r' && r.head? == some '\n' then ⟨r, c.index + 1, c.line, c.column + 1⟩
    else if isBreak a then ⟨r, c.index + 1, c.line + 1, 0⟩
    else if a == '\uFEFF' then ⟨r, c.index + 1, c.line, c.column⟩
    else ⟨r, c.index + 1, c.line, c.column + 1⟩

/-- A number of characters further. -/
def skip : Nat → Cursor → Cursor
  | 0, c => c
  | n + 1, c => skip n c.next

/-- The longest run of characters that satisfy `p`. -/
def run (p : Char → Bool) (c : Cursor) : List Char := c.rest.takeWhile p

/-- The place behind the longest run of characters that satisfy `p`. -/
def pass (p : Char → Bool) (c : Cursor) : Cursor := c.skip (c.run p).length

/-- Behind the blanks at the cursor. -/
def passBlanks (c : Cursor) : Cursor := c.pass (· == ' ')

/-- Whether the text at the cursor begins with `cs`. -/
def sees (c : Cursor) (cs : List Char) : Bool := cs.isPrefixOf c.rest

/-- A line end at the cursor: what it is read as, and the place behind it. -/
def lineBreak? (c : Cursor) : Option (Char × Cursor) :=
  match c.rest with
  | '\r' :: '\n' :: _ => some ('\n', c.next.next)
  | a :: _ =>
    if a == '\r' || a == '\n' || a == '\x85' then some ('\n', c.next)
    else if a == '\u2028' || a == '\u2029' then some (a, c.next)
    else none
  | [] => none

/-- Three equal characters at the cursor, followed by a gap: a mark between documents. -/
def atMark (c : Cursor) (mark : Char) : Bool :=
  c.sees [mark, mark, mark] && isGap (c.peekAt 3)

/-- A mark that begins or ends a document. -/
def atDocumentMark (c : Cursor) : Bool := c.atMark '-' || c.atMark '.'

/-- Behind blanks and a comment. -/
def passComment (c : Cursor) : Cursor :=
  let c := c.passBlanks
  if c.peek == '#' then c.pass (fun a => !endsLine a) else c

/-- The rest of a line that may hold blanks and a comment only, with its line end. -/
def passLine? (c : Cursor) : Option Cursor :=
  let c := c.passComment
  if endsLine c.peek then
    match c.lineBreak? with
    | some (_, d) => some d
    | none => some c
  else none

end Cursor

theorem isAllowed_nul : isAllowed '\x00' = false := by decide

theorem Cursor.rest_next (c : Cursor) : c.next.rest = c.rest.tail := by
  unfold Cursor.next
  cases h : c.rest with
  | nil => simp [h]
  | cons a r =>
    dsimp only
    split
    · rfl
    · split
      · rfl
      · split <;> rfl

end SlidePress.Yaml
