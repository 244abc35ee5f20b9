import SlidePress.Number.Binary64
import SlidePress.Text.Blank
import SlidePress.Text.Word

/-! # Reading numbers

The texts that stand for a number when one is asked for: blanks around it, a sign, digits of any
script with single underscores between them; a double may have a point and an exponent, or be the
name of an infinity or of the value that is no number. -/

namespace SlidePress.Number

open SlidePress.Text

/-- The value of a digit or letter as a digit. -/
def digitOf? (c : Char) : Option Nat :=
  if isDecimal c then some (digitValue c)
  else if 'a' ≤ c ∧ c ≤ 'z' then some (c.toNat - 87)
  else if 'A' ≤ c ∧ c ≤ 'Z' then some (c.toNat - 55)
  else none

/-- Digits of a base, with single underscores between them; `atDigit` tells whether an underscore
may come next. -/
def readDigits (base : Nat) (atDigit : Bool) (total : Nat) : List Char → Option Nat
  | [] => if atDigit then some total else none
  | '_' :: r => if atDigit then readDigits base false total r else none
  | c :: r =>
    match digitOf? c with
    | some d => if d < base then readDigits base true (total * base + d) r else none
    | none => none

/-- A sign, if there is one, and the rest. -/
def readSign : List Char → Bool × List Char
  | '-' :: r => (true, r)
  | '+' :: r => (false, r)
  | cs => (false, cs)

/-- The digits of a base in front of a text of that base. -/
def baseMark (base : Nat) : List Char → List Char
  | '0' :: c :: r =>
    let marks := match base with
      | 2 => ['b', 'B']
      | 8 => ['o', 'O']
      | 16 => ['x', 'X']
      | _ => []
    if marks.contains c then (match r with
      | '_' :: r => r
      | r => r)
    else '0' :: c :: r
  | cs => cs

/-- The most decimal digits that are read as an integer. -/
def digitLimit : Nat := 4300

/-- An integer in a base from 2 to 36. -/
def readInt (base : Nat) (cs : List Char) : Option Int :=
  let (negative, body) := readSign (stripChars cs)
  let body := baseMark base body
  if base = 10 ∧ digitLimit < (body.filter (· != '_')).length then none
  else (readDigits base false 0 body).map fun n => if negative then -(n : Int) else n

/-- The longest beginning of decimal digits and underscores, and the rest. -/
def spanDigits (cs : List Char) : List Char × List Char :=
  cs.span fun c => isDecimal c || c == '_'

/-- Decimal digits without underscores, and how many there are; none if they are malformed. -/
def digitRun (cs : List Char) : Option (Nat × Nat) :=
  if cs.isEmpty then some (0, 0)
  else (readDigits 10 false 0 cs).map fun n => (n, (cs.filter (· != '_')).length)

/-- The exponent of a double, if one is written. -/
def readExponent : List Char → Option Int
  | [] => some 0
  | c :: r =>
    if c = 'e' ∨ c = 'E' then
      let (negative, body) := readSign r
      (readDigits 10 false 0 body).map fun n => if negative then -(n : Int) else n
    else none

/-- A double. -/
def readFloat (cs : List Char) : Option Float :=
  let (negative, body) := readSign (stripChars cs)
  let name := String.ofList (body.map Char.toLower)
  if name = "inf" ∨ name = "infinity" then some (assemble negative (pow2 52) 972)
  else if name = "nan" then some notANumber
  else do
    let (whole, rest) := spanDigits body
    let (fraction, rest) := match rest with
      | '.' :: r => spanDigits r
      | r => ([], r)
    if whole.isEmpty ∧ fraction.isEmpty then none
    else
      let (a, _) ← digitRun whole
      let (b, k) ← digitRun fraction
      let e ← readExponent rest
      some (ofDecimal negative (a * pow10 k + b) (e - k))

end SlidePress.Number
