import SlidePress.Number.Places
import SlidePress.Text.Search
import SlidePress.Value.Text

/-! # Texts with places for values

A percent sign in a text stands for a place where a value is written: the sign, possibly the key of
the value in brackets, flags, a width, a precision and a letter for the form. Every value has to be
used, unless they are looked up by key.

* `Value.percent`: a text with values in its places. -/

namespace SlidePress.Value

open SlidePress.Text

/-- The flags of a place. -/
structure PlaceFlags where
  left : Bool
  plus : Bool
  space : Bool
  alternate : Bool
  zero : Bool
  deriving Inhabited

/-- The values that are still to be written. -/
structure Supply where
  rest : List Value
  /-- The mapping that keys are looked up in. -/
  keyed : Option Entries
  /-- Values may be left over. -/
  lax : Bool

namespace Supply

/-- The values that an operand supplies: a tuple several, all others one. -/
def ofValue : Value → Supply
  | tuple xs => ⟨xs, none, false⟩
  | map es => ⟨[map es], some es, true⟩
  | list xs => ⟨[list xs], none, true⟩
  | bytes bs => ⟨[bytes bs], none, true⟩
  | range a b c => ⟨[range a b c], none, true⟩
  | undefined => ⟨[undefined], none, true⟩
  | v => ⟨[v], none, false⟩

/-- The next value. -/
def take (s : Supply) : Attempt (Value × Supply) :=
  match s.rest with
  | v :: rest => .ok (v, { s with rest })
  | [] => .error .wrongType

end Supply

/-- The flags a text begins with. -/
def flagsOf (f : PlaceFlags) : List Char → PlaceFlags × List Char
  | '-' :: r => flagsOf { f with left := true } r
  | '+' :: r => flagsOf { f with plus := true } r
  | ' ' :: r => flagsOf { f with space := true } r
  | '#' :: r => flagsOf { f with alternate := true } r
  | '0' :: r => flagsOf { f with zero := true } r
  | cs => (f, cs)

/-- A number written in digits, if there is one, and the rest. -/
def countOf (cs : List Char) : Option Nat × List Char :=
  let ds := cs.takeWhile Char.isDigit
  (if ds.isEmpty then none else some (ds.foldl (fun n c => n * 10 + (c.toNat - 48)) 0),
    cs.drop ds.length)

/-- A width or precision: digits, or a star for the next value. -/
def measureOf (s : Supply) : List Char → Attempt (Option Int × List Char × Supply)
  | '*' :: r => do
    let (v, s) ← s.take
    match v.numeric? with
    | some (.int n) => return (some n, r, s)
    | _ => throw .wrongType
  | cs =>
    let (n, r) := countOf cs
    .ok (n.map Int.ofNat, r, s)

/-- The text up to the bracket that closes the one before it, and the rest. -/
def keyOf : Nat → List Char → Option (List Char × List Char)
  | _, [] => none
  | depth, c :: r =>
    if c = ')' then
      match depth with
      | 0 => some ([], r)
      | depth + 1 => (keyOf depth r).map fun (cs, rest) => (c :: cs, rest)
    else (keyOf (if c = '(' then depth + 1 else depth) r).map fun (cs, rest) => (c :: cs, rest)

/-- The sign of a number. -/
def signText (f : PlaceFlags) (negative : Bool) : List Char :=
  if negative then ['-'] else if f.plus then ['+'] else if f.space then [' '] else []

/-- A text filled up to a width; zeros come behind the sign. -/
def fill (f : PlaceFlags) (zeros : Bool) (width : Nat) (sign body : List Char) : List Char :=
  let gap := width - (sign.length + body.length)
  if f.left then sign ++ body ++ List.replicate gap ' '
  else if zeros && f.zero then sign ++ List.replicate gap '0' ++ body
  else List.replicate gap ' ' ++ sign ++ body

/-- A number in a base, with a least number of digits. -/
def digitsText (base least n : Nat) : List Char :=
  let ds := Nat.toDigits base n
  List.replicate (least - ds.length) '0' ++ ds

/-- The integer a number stands for in a place for integers. -/
def integerOf (base : Nat) (v : Value) : Attempt Int :=
  match v.numeric? with
  | some (.int n) => .ok n
  | some (.float x) =>
    if base != 10 then .error .wrongType
    else if x.isNaN then .error .badValue
    else Attempt.ofOption .overflow (Number.truncate? x)
  | none => .error .wrongType

/-- The double a number stands for. -/
def doubleOf (v : Value) : Attempt Float :=
  match v.numeric? with
  | some (.int n) => Attempt.ofOption .overflow (Number.ofInt? n)
  | some (.float x) => .ok x
  | none => .error .wrongType

/-- A text in which characters beyond the first 128 are escaped. -/
def asciiText (s : String) : List Char :=
  s.toList.flatMap fun c =>
    let n := c.toNat
    if n < 128 then [c]
    else if n < 256 then '\\' :: 'x' :: hexDigits 2 n
    else if n < 65536 then '\\' :: 'u' :: hexDigits 4 n
    else '\\' :: 'U' :: hexDigits 8 n

/-- A value written in a place of a given form. -/
def placed (f : PlaceFlags) (width : Nat) (precision : Option Nat) (form : Char) (v : Value) :
    Attempt (List Char) :=
  let words (cs : List Char) : List Char :=
    fill f false width [] (match precision with
      | some p => cs.take p
      | none => cs)
  let whole (base : Nat) (mark : List Char) (upper : Bool) : Attempt (List Char) := do
    let n ← integerOf base v
    let ds := digitsText base (precision.getD 0) n.natAbs
    let sign := signText f (n < 0) ++ if f.alternate then mark else []
    let cs := fill f true width sign ds
    return if upper then cs.map Char.toUpper else cs
  let real (style : Number.Style) (upper : Bool) : Attempt (List Char) := do
    let x ← doubleOf v
    let (negative, ds) := Number.written style (precision.getD 6) x
    let cs := fill f true width (signText f negative) ds
    return if upper then cs.map Char.toUpper else cs
  match form with
  | 's' => .ok (words v.text.toList)
  | 'r' => .ok (words v.literal.toList)
  | 'a' => .ok (words (asciiText v.literal))
  | 'd' => whole 10 [] false
  | 'i' => whole 10 [] false
  | 'u' => whole 10 [] false
  | 'o' => whole 8 ['0', 'o'] false
  | 'x' => whole 16 ['0', 'x'] false
  | 'X' => whole 16 ['0', 'x'] true
  | 'f' => real .fixed false
  | 'F' => real .fixed true
  | 'e' => real .scientific false
  | 'E' => real .scientific true
  | 'g' => real .general false
  | 'G' => real .general true
  | 'c' =>
    match v with
    | .int n =>
      if 0 ≤ n ∧ n < 0x110000 then .ok (fill f false width [] [Char.ofNat n.toNat])
      else .error .overflow
    | v =>
      match v.text?.map String.toList with
      | some [c] => .ok (fill f false width [] [c])
      | _ => .error .wrongType
  | _ => .error .badValue

/-- What stands behind a percent sign, written, with the rest of the text and of the values. -/
def placeOf (s : Supply) (cs : List Char) : Attempt (List Char × List Char × Supply) := do
  let (found, cs) : Option Value × List Char ← match cs with
    | '(' :: r =>
      match s.keyed with
      | none => throw .wrongType
      | some es =>
        let (key, r) ← Attempt.ofOption .badValue (keyOf 0 r)
        let v ← Attempt.ofOption .noKey (Entries.get? es (String.ofList key))
        pure (some v, r)
    | cs => pure (none, cs)
  let (f, cs) := flagsOf default cs
  let (width, cs, s) ← measureOf s cs
  let (precision, cs, s) ← match cs with
    | '.' :: r => do
      let (p, r, s) ← measureOf s r
      pure (some (p.getD 0).toNat, r, s)
    | cs => pure (none, cs, s)
  let cs := cs.dropWhile fun c => c == 'h' || c == 'l' || c == 'L'
  let w := width.getD 0
  let f := if w < 0 then { f with left := true } else f
  match cs with
  | [] => throw .badValue
  | '%' :: r => return (['%'], r, s)
  | form :: r =>
    let (v, s) ← match found with
      | some v => pure (v, s)
      | none => s.take
    return (← placed f w.natAbs precision form v, r, s)

/-- A text with values in its places. -/
def percentFrom : Nat → Supply → List Char → Attempt (List Char)
  | 0, _, _ => .ok []
  | n + 1, s, cs => do
    match cs with
    | [] => if s.rest.isEmpty || s.lax then return [] else throw .wrongType
    | '%' :: r =>
      let (written, r, s) ← placeOf s r
      return written ++ (← percentFrom n s r)
    | c :: r => return c :: (← percentFrom n s r)

/-- A text with values in its places. -/
def percent (s : String) (v : Value) : Attempt String := do
  let cs := s.toList
  return String.ofList (← percentFrom (cs.length + 1) (Supply.ofValue v) cs)

end SlidePress.Value
