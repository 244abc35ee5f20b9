import SlidePress.Number.Read
import SlidePress.Value.Basic

/-! # Reading JSON

JSON texts as values. The members of an object keep their order, and of two members with one name
the later value wins at the earlier place. A number with a point or an exponent is a double, any
other number an integer of any size; the names `NaN`, `Infinity` and `-Infinity` are read as
doubles. Nesting is bounded by the length of the text.

* `Json.read`: the value of a whole text. -/

namespace SlidePress.Json

/-- Blank space between tokens. -/
def isSpace (c : Char) : Bool := c == ' ' || c == '\t' || c == '\n' || c == '\r'

/-- A text without the blank space at its beginning. -/
def skipSpace (cs : List Char) : List Char := cs.dropWhile isSpace

/-- The value of a hexadecimal digit. -/
def hexValue? (c : Char) : Option Nat :=
  if '0' ≤ c ∧ c ≤ '9' then some (c.toNat - 48)
  else if 'a' ≤ c ∧ c ≤ 'f' then some (c.toNat - 87)
  else if 'A' ≤ c ∧ c ≤ 'F' then some (c.toNat - 55)
  else none

/-- Four hexadecimal digits and the rest. -/
def hex4 : List Char → Option (Nat × List Char)
  | a :: b :: c :: d :: r => do
    let a ← hexValue? a
    let b ← hexValue? b
    let c ← hexValue? c
    let d ← hexValue? d
    return (((a * 16 + b) * 16 + c) * 16 + d, r)
  | _ => none

/-- The character of a code unit that is not half of a pair; the replacement character for a half
without its partner. -/
def unitChar (n : Nat) : Char := if 0xD800 ≤ n ∧ n < 0xE000 then '\uFFFD' else Char.ofNat n

/-- The character a numeric escape stands for, and the rest: two escapes may form a pair. -/
def escapedUnit (cs : List Char) : Option (Char × List Char) := do
  let (n, r) ← hex4 cs
  if 0xD800 ≤ n ∧ n < 0xDC00 then
    match r with
    | '\\' :: 'u' :: r' =>
      match hex4 r' with
      | some (m, r'') =>
        if 0xDC00 ≤ m ∧ m < 0xE000 then
          return (Char.ofNat (0x10000 + (n - 0xD800) * 0x400 + (m - 0xDC00)), r'')
        else return (unitChar n, r)
      | none => return (unitChar n, r)
    | _ => return (unitChar n, r)
  else return (unitChar n, r)

/-- The character after a backslash. -/
def simpleEscape? (c : Char) : Option Char :=
  match c with
  | '"' => some '"'
  | '\\' => some '\\'
  | '/' => some '/'
  | 'b' => some '\x08'
  | 'f' => some '\x0c'
  | 'n' => some '\n'
  | 'r' => some '\r'
  | 't' => some '\t'
  | _ => none

/-- The rest of a text in quotes; `got` holds what has been read, last character first. -/
def readText : Nat → List Char → List Char → Option (String × List Char)
  | 0, _, _ => none
  | _ + 1, _, [] => none
  | n + 1, got, c :: r =>
    if c = '"' then some (String.ofList got.reverse, r)
    else if c = '\\' then
      match r with
      | 'u' :: r =>
        match escapedUnit r with
        | some (d, r) => readText n (d :: got) r
        | none => none
      | d :: r =>
        match simpleEscape? d with
        | some d => readText n (d :: got) r
        | none => none
      | [] => none
    else if c.toNat < 32 then none
    else readText n (c :: got) r

/-- The longest beginning of decimal digits, and the rest. -/
def spanAscii (cs : List Char) : List Char × List Char := cs.span Char.isDigit

/-- The number written by ASCII digits. -/
def digitsValue (cs : List Char) : Nat := cs.foldl (fun n c => n * 10 + (c.toNat - 48)) 0

/-- The fraction of a number, if one is written in full. -/
def readFraction : List Char → List Char × List Char
  | '.' :: r =>
    let (ds, rest) := spanAscii r
    if ds.isEmpty then ([], '.' :: r) else (ds, rest)
  | cs => ([], cs)

/-- The exponent of a number, if one is written in full. -/
def readExponent (cs : List Char) : Option (Int × List Char) :=
  match cs with
  | e :: r =>
    if e = 'e' ∨ e = 'E' then
      let (negative, body) := Number.readSign r
      let (ds, rest) := spanAscii body
      if ds.isEmpty then none
      else
        let n : Int := digitsValue ds
        some (if negative then -n else n, rest)
    else none
  | [] => none

/-- A number. -/
def readNumber (cs : List Char) : Option (Attempt Value × List Char) :=
  let (negative, body) := match cs with
    | '-' :: r => (true, r)
    | r => (false, r)
  let (whole, rest) := spanAscii body
  let (whole, rest) := match whole with
    | '0' :: more => (['0'], more ++ rest)
    | ds => (ds, rest)
  if whole.isEmpty then none
  else
    let (fraction, rest) := readFraction rest
    match fraction, readExponent rest with
    | [], none =>
      if Number.digitLimit < whole.length then some (.error .badValue, rest)
      else
        let n : Int := digitsValue whole
        some (.ok (.int (if negative then -n else n)), rest)
    | fraction, exponent =>
      let (e, rest) := exponent.getD (0, rest)
      let x := Number.ofDecimal negative (digitsValue (whole ++ fraction)) (e - fraction.length)
      some (.ok (.float x), rest)

/-- The values that are written as a word. -/
def wordValues : List (String × Value) :=
  [("null", .null), ("true", .bool true), ("false", .bool false), ("NaN", .float Number.notANumber),
    ("Infinity", .float Number.infinity), ("-Infinity", .float (-Number.infinity))]

/-- A value written as a word, and the rest. -/
def readWord (cs : List Char) : List (String × Value) → Option (Value × List Char)
  | [] => none
  | (w, v) :: more =>
    if w.toList.isPrefixOf cs then some (v, cs.drop w.length) else readWord cs more

mutual

/-- A value at the beginning of a text, and the rest. -/
def readValue : Nat → List Char → Attempt (Value × List Char)
  | 0, _ => .error .malformedJson
  | n + 1, cs =>
    match skipSpace cs with
    | '"' :: r =>
      match readText (r.length + 1) [] r with
      | some (s, r) => .ok (.str s, r)
      | none => .error .malformedJson
    | '[' :: r =>
      match skipSpace r with
      | ']' :: r => .ok (.list [], r)
      | r => readItems n [] r
    | '{' :: r =>
      match skipSpace r with
      | '}' :: r => .ok (.map [], r)
      | r => readMembers n [] r
    | cs =>
      match readWord cs wordValues with
      | some (v, r) => .ok (v, r)
      | none =>
        match readNumber cs with
        | some (v, r) => v.map fun v => (v, r)
        | none => .error .malformedJson

/-- The items of an array from one item on; `got` holds the items before, last first. -/
def readItems : Nat → List Value → List Char → Attempt (Value × List Char)
  | 0, _, _ => .error .malformedJson
  | n + 1, got, cs => do
    let (v, r) ← readValue n cs
    match skipSpace r with
    | ',' :: r => readItems n (v :: got) r
    | ']' :: r => .ok (.list (v :: got).reverse, r)
    | _ => .error .malformedJson

/-- The members of an object from one member on; `got` holds the members before. -/
def readMembers : Nat → Entries → List Char → Attempt (Value × List Char)
  | 0, _, _ => .error .malformedJson
  | n + 1, got, cs =>
    match skipSpace cs with
    | '"' :: r =>
      match readText (r.length + 1) [] r with
      | none => .error .malformedJson
      | some (name, r) =>
        match skipSpace r with
        | ':' :: r => do
          let (v, r) ← readValue n r
          let got := got.insert (.str name) v
          match skipSpace r with
          | ',' :: r => readMembers n got r
          | '}' :: r => .ok (.map got, r)
          | _ => .error .malformedJson
        | _ => .error .malformedJson
    | _ => .error .malformedJson

end

/-- The value of a JSON text. -/
def read (s : String) : Attempt Value := do
  let cs := s.toList
  let (v, rest) ← readValue (2 * cs.length + 2) cs
  if (skipSpace rest).isEmpty then .ok v else .error .malformedJson

end SlidePress.Json
