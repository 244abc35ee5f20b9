import SlidePress.Json.Reader
import SlidePress.Template.Basic
import SlidePress.Text.Quoted
import SlidePress.Text.Search
import SlidePress.Text.Word

/-! # The pieces of a template

A template text is cut into pieces: plain text, expressions to print and statements, the latter two
as lists of tokens. Comments vanish, and in raw stretches nothing but the end of the stretch is
looked for. A sign inside a pair of brackets tells what becomes of the blanks next to it: a minus
takes them away, a plus keeps them; without a sign the dialect decides.

* `Piece.ofText`: the pieces of a template. -/

namespace SlidePress.Template

open SlidePress.Text

/-- A token of an expression or statement. -/
inductive Token where
  | name (s : String)
  | text (s : String)
  | int (n : Int)
  | float (x : Float)
  | sign (s : String)
  deriving Inhabited

/-- A piece of a template. -/
inductive Piece where
  | text (s : String)
  | output (ts : List Token)
  | tag (ts : List Token)
  deriving Inhabited

/-- A sign inside brackets. -/
inductive Trim where
  | plain
  | minus
  | plus
  deriving DecidableEq, Inhabited

namespace Trim

/-- The sign a text begins with, and the rest. -/
def take : List Char → Trim × List Char
  | '-' :: r => (minus, r)
  | '+' :: r => (plus, r)
  | cs => (plain, cs)

/-- A text without the blanks that stand alone on its last line; `lineStart` tells whether the text
begins a line. -/
def cutIndent (lineStart : Bool) (cs : List Char) : List Char :=
  let last := cs.reverse.takeWhile (· != '\n')
  let front := cs.take (cs.length - last.length)
  if last.all isBlank && (lineStart || !front.isEmpty) then front else cs

/-- The text before an opening bracket with a sign. -/
def before (strip lineStart : Bool) (cs : List Char) : Trim → List Char
  | minus => stripRightBy isBlank cs
  | plus => cs
  | plain => if strip then cutIndent lineStart cs else cs

end Trim

/-! ### Tokens -/

namespace Token

/-- The signs of two characters. -/
def longSigns : List (List Char) :=
  [['/', '/'], ['*', '*'], ['=', '='], ['!', '='], ['>', '='], ['<', '=']]

/-- The signs of one character. -/
def shortSigns : List Char :=
  ['+', '-', '/', '*', '%', '~', '[', ']', '(', ')', '{', '}', '>', '<', '=', '.', ':', '|', ',',
    ';']

/-- A sign at the beginning of a text. -/
def sign? (cs : List Char) : Option (String × List Char) :=
  if longSigns.contains (cs.take 2) then some (String.ofList (cs.take 2), cs.drop 2)
  else
    match cs with
    | c :: r => if shortSigns.contains c then some (String.singleton c, r) else none
    | [] => none

/-- The digits a text begins with, with single underscores between them, and the rest. -/
def digits (p : Char → Bool) : List Char → List Char × List Char
  | [] => ([], [])
  | [c] => if p c then ([c], []) else ([], [c])
  | c :: c' :: r =>
    if p c then
      let (ds, rest) := digits p (c' :: r)
      (c :: ds, rest)
    else if c = '_' ∧ p c' then digits p (c' :: r)
    else ([], c :: c' :: r)

/-- The digits of a run that may not begin with an underscore. -/
def digitsFrom (p : Char → Bool) (cs : List Char) : List Char × List Char :=
  match cs with
  | c :: _ => if p c then digits p cs else ([], cs)
  | [] => ([], [])

/-- The number that digits of a base stand for. -/
def valueOf (base : Nat) (cs : List Char) : Nat :=
  cs.foldl (fun n c => n * base + (Json.hexValue? c).getD 0) 0

/-- The digits of an exponent with its sign, and the rest. -/
def exponent? : List Char → Option (Int × List Char)
  | c :: r =>
    if c = 'e' ∨ c = 'E' then
      let (negative, r) : Bool × List Char := match r with
        | '-' :: r => (true, r)
        | '+' :: r => (false, r)
        | r => (false, r)
      let (ds, rest) := digitsFrom Char.isDigit r
      if ds.isEmpty then none
      else
        let n : Int := valueOf 10 ds
        some (if negative then -n else n, rest)
    else none
  | [] => none

/-- A number with a point or an exponent at the beginning of a text. -/
def float? (cs : List Char) : Option (Float × List Char) :=
  let (whole, r) := digitsFrom Char.isDigit cs
  if whole.isEmpty then none
  else
    let (fraction, r) : List Char × List Char := match r with
      | '.' :: r' =>
        let (ds, rest) := digitsFrom Char.isDigit r'
        if ds.isEmpty then ([], r) else (ds, rest)
      | r => ([], r)
    let value (e : Int) : Float :=
      Number.ofDecimal false (valueOf 10 (whole ++ fraction)) (e - fraction.length)
    match exponent? r with
    | some (e, rest) => some (value e, rest)
    | none => if fraction.isEmpty then none else some (value 0, r)

/-- Whether a character is a digit of a base. -/
def isDigitOf (base : Nat) (c : Char) : Bool :=
  match Json.hexValue? c with
  | some d => d < base
  | none => false

/-- An integer with a mark for its base. -/
def marked? (base : Nat) (cs : List Char) : Option (Nat × List Char) :=
  let (ds, rest) := digits (isDigitOf base) cs
  if ds.isEmpty then none else some (valueOf base ds, rest)

/-- An integer at the beginning of a text; one that begins with zero is zero. -/
def int? : List Char → Attempt (Option (Nat × List Char))
  | '0' :: r =>
    let based := match r with
      | 'b' :: r => marked? 2 r
      | 'B' :: r => marked? 2 r
      | 'o' :: r => marked? 8 r
      | 'O' :: r => marked? 8 r
      | 'x' :: r => marked? 16 r
      | 'X' :: r => marked? 16 r
      | _ => none
    match based with
    | some found => .ok (some found)
    | none => .ok (some (0, (digits (· == '0') r).2))
  | cs =>
    let (ds, rest) := digitsFrom Char.isDigit cs
    if ds.isEmpty then .ok none
    else if Number.digitLimit < ds.length then .error .badValue
    else .ok (some (valueOf 10 ds, rest))

/-- A name: it begins with a letter or an underscore. -/
def isName : List Char → Bool
  | c :: r => (isLetter c || c == '_') && r.all fun c => isLetter c || isDecimal c || c == '_'
  | [] => false

/-- The characters up to a closing quote, with escapes as they stand, and the rest. -/
def quotedRun (quote : Char) : List Char → Option (List Char × List Char)
  | [] => none
  | '\\' :: c :: r => (quotedRun quote r).map fun (cs, rest) => ('\\' :: c :: cs, rest)
  | c :: r =>
    if c = quote then some ([], r)
    else if c = '\\' then none
    else (quotedRun quote r).map fun (cs, rest) => (c :: cs, rest)

/-- Characters beyond the first 128 as escapes. -/
def escapeWide (c : Char) : List Char :=
  let n := c.toNat
  if n < 128 then [c]
  else if n < 256 then '\\' :: 'x' :: hexDigits 2 n
  else if n < 65536 then '\\' :: 'u' :: hexDigits 4 n
  else '\\' :: 'U' :: hexDigits 8 n

/-- The characters that a letter after a backslash stands for. -/
def escapes : List (Char × Char) :=
  [('a', '\x07'), ('b', '\x08'), ('f', '\x0c'), ('n', '\n'), ('r', '\r'), ('t', '\t'),
    ('v', '\x0b'), ('\\', '\\'), ('\'', '\''), ('"', '"')]

/-- A character given by exactly `width` hexadecimal digits. -/
def hexEscape (width : Nat) (cs : List Char) : Attempt Char :=
  let ds := cs.take width
  let n := valueOf 16 ds
  if ds.length = width ∧ ds.all (isDigitOf 16) ∧ n < 0x110000 then .ok (Json.unitChar n)
  else .error .templateSyntax

/-- Replaces escapes by the characters they stand for; the first `skip` characters belong to an
escape already replaced. -/
def unescape (skip : Nat) : List Char → Attempt (List Char)
  | [] => .ok []
  | c :: r =>
    match skip with
    | k + 1 => unescape k r
    | 0 =>
      if c != '\\' then do return c :: (← unescape 0 r)
      else
        match r with
        | [] => .error .templateSyntax
        | '\n' :: _ => unescape 1 r
        | 'x' :: cs => do return (← hexEscape 2 cs) :: (← unescape 3 r)
        | 'u' :: cs => do return (← hexEscape 4 cs) :: (← unescape 5 r)
        | 'U' :: cs => do return (← hexEscape 8 cs) :: (← unescape 9 r)
        | 'N' :: _ => .error .templateSyntax
        | a :: _ =>
          match escapes.lookup a with
          | some b => do return b :: (← unescape 1 r)
          | none =>
            let ds := (r.take 3).takeWhile (isDigitOf 8)
            if ds.isEmpty then do return '\\' :: (← unescape 0 r)
            else do return Char.ofNat (valueOf 8 ds) :: (← unescape ds.length r)

/-- A token at the beginning of a text that is not blank; behind a point no number with a fraction
begins. -/
def read (afterPoint : Bool) (cs : List Char) : Attempt (Token × List Char) := do
  let fraction? := if afterPoint then none else float? cs
  match fraction? with
  | some (x, rest) => return (float x, rest)
  | none =>
    match ← int? cs with
    | some (n, rest) => return (int n, rest)
    | none =>
      let word := cs.takeWhile isWord
      if !word.isEmpty then
        if isName word then return (name (String.ofList word), cs.drop word.length)
        else throw .templateSyntax
      else
        let quoted := match cs with
          | c :: r => if c = '\'' ∨ c = '"' then quotedRun c r else none
          | [] => none
        match quoted with
        | some (body, rest) =>
          return (text (String.ofList (← unescape 0 (body.flatMap escapeWide))), rest)
        | none =>
          match sign? cs with
          | some (s, rest) => return (sign s, rest)
          | none => throw .templateSyntax

end Token

/-! ### Brackets -/

/-- What follows a closing bracket, and whether the bracket with the blanks it takes ends a line;
`mark` is the character that closes, and statements may keep the line feed behind them. -/
def closing? (mark : Char) (isOutput trim : Bool) : List Char → Option (List Char × Bool)
  | '-' :: c :: '}' :: r =>
    if c = mark then
      let gone := r.takeWhile isBlank
      some (r.drop gone.length, gone.getLast? == some '\n')
    else none
  | '+' :: c :: '}' :: r => if c = mark ∧ !isOutput then some (r, false) else none
  | c :: '}' :: r =>
    if c = mark then
      match r with
      | '\n' :: r' => if trim ∧ !isOutput then some (r', true) else some (r, false)
      | _ => some (r, false)
    else none
  | _ => none

/-- The tokens up to a closing bracket, what follows it, and whether it ends a line; `open` are the
brackets that still have to be closed. -/
def tokensTo (mark : Char) (trim : Bool) : Nat → List Char → Bool → List Char →
    Attempt (List Token × List Char × Bool)
  | 0, _, _, _ => .error .templateSyntax
  | n + 1, awaited, afterPoint, cs =>
    let done := if awaited.isEmpty then closing? mark (mark == '}') trim cs else none
    match done with
    | some (rest, endsLine) => .ok ([], rest, endsLine)
    | none =>
      match cs with
      | [] => .error .templateSyntax
      | c :: r =>
        if isBlank c then tokensTo mark trim n awaited false r
        else do
          let (t, rest) ← Token.read afterPoint cs
          let awaited ← match t with
            | .sign "(" => .ok (')' :: awaited)
            | .sign "[" => .ok (']' :: awaited)
            | .sign "\x7b" => .ok ('}' :: awaited)
            | .sign s =>
              if s = ")" ∨ s = "]" ∨ s = "\x7d" then
                match awaited with
                | a :: more => if s = String.singleton a then .ok more else throw .templateSyntax
                | [] => throw .templateSyntax
              else .ok awaited
            | _ => .ok awaited
          let point := match t with
            | .sign "." => true
            | _ => false
          let (ts, after) ← tokensTo mark trim n awaited point rest
          return (t :: ts, after)

/-- The text before the first opening bracket, and the rest. -/
def untilOpening : List Char → List Char × List Char
  | [] => ([], [])
  | [c] => ([c], [])
  | c :: c' :: r =>
    if c = '{' ∧ (c' = '{' ∨ c' = '%' ∨ c' = '#') then ([], c :: c' :: r)
    else
      let (before, rest) := untilOpening (c' :: r)
      (c :: before, rest)

/-- What follows a word, if a text begins with it after blanks, without the blanks behind it. -/
def afterWord? (word cs : List Char) : Option (List Char) :=
  (after? word (cs.dropWhile isBlank)).map fun r => r.dropWhile isBlank

/-- The sign of the opening of a raw stretch behind its opening bracket, what follows, and whether
the opening ends a line. -/
def rawOpening? (cs : List Char) : Option (Trim × List Char × Bool) :=
  let (sign, r) := Trim.take cs
  match afterWord? "raw".toList r with
  | some ('+' :: _) => none
  | some r => (closing? '%' false false r).map fun (rest, endsLine) => (sign, rest, endsLine)
  | none => none

/-- The raw text up to its end, the sign there, what follows, and whether the end ends a line. -/
def rawText? (trim : Bool) : List Char → Option (List Char × Trim × List Char × Bool)
  | [] => none
  | c :: r =>
    let ended := match c :: r with
      | '{' :: '%' :: r' =>
        let (sign, r') := Trim.take r'
        ((afterWord? "endraw".toList r').bind (closing? '%' false trim)).map fun (rest, e) =>
          (sign, rest, e)
      | _ => none
    match ended with
    | some (sign, rest, e) => some ([], sign, rest, e)
    | none => (rawText? trim r).map fun (text, more) => (c :: text, more)

/-- What follows a comment, and whether its end ends a line. -/
def afterComment? (trim : Bool) : List Char → Option (List Char × Bool)
  | [] => none
  | c :: r =>
    match closing? '#' false trim (c :: r) with
    | some found => some found
    | none => afterComment? trim r

namespace Piece

/-- A text as a piece, unless it is empty. -/
def ofChars (cs : List Char) : List Piece :=
  if cs.isEmpty then [] else [text (String.ofList cs)]

/-- The pieces of a text; `lineStart` tells whether the text begins a line. -/
def scan (d : Dialect) : Nat → Bool → List Char → Attempt (List Piece)
  | 0, _, cs => .ok (ofChars cs)
  | n + 1, lineStart, cs => do
    let (front, rest) := untilOpening cs
    let cut (isOutput : Bool) (sign : Trim) : List Piece :=
      ofChars (sign.before (d.stripBlocks && !isOutput) lineStart front)
    match rest with
    | '{' :: '{' :: r =>
      let (sign, r) := Trim.take r
      let (ts, r, endsLine) ← tokensTo '}' d.trimBlocks (r.length + 1) [] false r
      return cut true sign ++ output ts :: (← scan d n endsLine r)
    | '{' :: '#' :: r =>
      let (sign, r) := Trim.take r
      let (r, endsLine) ← Attempt.ofOption .templateSyntax (afterComment? d.trimBlocks r)
      return cut false sign ++ (← scan d n endsLine r)
    | '{' :: '%' :: r =>
      match rawOpening? r with
      | some (sign, r, endsLine) =>
        let (body, sign', r, endsLine') ← Attempt.ofOption .templateSyntax (rawText? d.trimBlocks r)
        return cut false sign ++ ofChars (sign'.before d.stripBlocks endsLine body) ++
          (← scan d n endsLine' r)
      | none =>
        let (sign, r) := Trim.take r
        let (ts, r, endsLine) ← tokensTo '%' d.trimBlocks (r.length + 1) [] false r
        return cut false sign ++ tag ts :: (← scan d n endsLine r)
    | _ => return ofChars cs

/-- A text with line feeds between its lines, and without a line feed at its end. -/
def source (s : String) : List Char :=
  let cs := unixLines s.toList
  if cs.getLast? == some '\n' then cs.dropLast else cs

/-- The pieces of a template. -/
def ofText (d : Dialect) (s : String) : Attempt (List Piece) :=
  let cs := source s
  scan d (cs.length + 1) true cs

end Piece

end SlidePress.Template
