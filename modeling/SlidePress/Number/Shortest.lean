import SlidePress.Number.Binary64

/-! # Shortest decimal text

The text of a double is the shortest decimal that reads back as the same double, and of those the
nearest. For one digit, two digits, and so on, the two neighbours of the exact value on the decimal
grid with that many digits are tried; the first grid with a neighbour inside the interval of
fractions that round to the double decides. `Layout` holds the choices of the written form. -/

namespace SlidePress.Number

/-- The number of decimal digits, at least one. -/
def width (n : Nat) : Nat := (Nat.toDigits 10 n).length

/-- The decimal exponent of a positive fraction: the largest `e` with `10^e ≤ num / den`. -/
def magnitude (num den : Nat) : Int :=
  let d : Int := (width num : Int) - width den
  let reached := if 0 ≤ d then den * pow10 d.toNat ≤ num else den ≤ num * pow10 (-d).toNat
  if reached then d else d - 1

/-- The interval of fractions that round to `m · 2^q`, over a common denominator: lower end, value,
upper end, denominator. -/
def interval (m : Nat) (q : Int) : Nat × Nat × Nat × Nat :=
  let low := if m = pow2 52 ∧ -1074 < q then 4 * m - 1 else 4 * m - 2
  if 0 ≤ q then
    let s := pow2 q.toNat
    (low * s, 4 * m * s, (4 * m + 2) * s, 4)
  else (low, 4 * m, 4 * m + 2, 4 * pow2 (-q).toNat)

/-- The best decimal `n · 10^e` inside the interval, if there is one. -/
def onGrid (low value high den : Nat) (closed : Bool) (e : Int) : Option Nat :=
  let (num, unit) := if 0 ≤ e then (value, den * pow10 e.toNat) else (value * pow10 (-e).toNat, den)
  let scale (x : Nat) : Nat := if 0 ≤ e then x else x * pow10 (-e).toNat
  let inside (n : Nat) : Bool :=
    if closed then scale low ≤ n * unit && n * unit ≤ scale high
    else scale low < n * unit && n * unit < scale high
  let below := num / unit
  let above := below + 1
  let first := if roundDiv num unit = below then below else above
  let second := if first = below then above else below
  if inside first then some first else if inside second then some second else none

/-- Tries grids of increasing fineness. -/
def searchGrids (low value high den : Nat) (closed : Bool) (top : Int) :
    Nat → Nat → Option (Nat × Int)
  | 0, _ => none
  | more + 1, digits =>
    let e := top - digits
    match onGrid low value high den closed e with
    | some n => some (n, e)
    | none => searchGrids low value high den closed top more (digits + 1)

/-- A decimal without the zeros at its end. -/
def dropZeros : Nat → Nat → Int → Nat × Int
  | 0, n, e => (n, e)
  | more + 1, n, e => if n % 10 = 0 ∧ n ≠ 0 then dropZeros more (n / 10) (e + 1) else (n, e)

/-- Digits and exponent of the shortest decimal that rounds to `m · 2^q`, for a positive `m`. -/
def shortest (m : Nat) (q : Int) : Nat × Int :=
  let (low, value, high, den) := interval m q
  match searchGrids low value high den (m % 2 == 0) (magnitude value den) 18 0 with
  | some (n, e) => dropZeros 20 n e
  | none => (value, 0)

/-- The choices of a written form. -/
structure Layout where
  /-- Decimal exponents below this one are written with an exponent mark. -/
  leastPlain : Int
  /-- Decimal exponents from this one on are written with an exponent mark. -/
  firstMarked : Int
  /-- The least number of digits of the exponent. -/
  exponentWidth : Nat
  /-- The text of the infinities, after the sign. -/
  infinite : String
  /-- The text of a double that is not a number. -/
  nan : String

/-- Numbers are plain from `0.0001` up to below `10^16`, with a point and at least one digit behind
it; all others have an exponent of two digits or more. -/
def Layout.usual : Layout := ⟨-4, 16, 2, "inf", "nan"⟩

/-- A text of digits with a point behind the digit number `point`, and a zero where a side is
empty. -/
def placePoint (digits : List Char) (point : Int) : List Char :=
  if point ≤ 0 then '0' :: '.' :: List.replicate (-point).toNat '0' ++ digits
  else
    let k := point.toNat
    if digits.length ≤ k then digits ++ List.replicate (k - digits.length) '0' ++ ['.', '0']
    else digits.take k ++ '.' :: digits.drop k

/-- An exponent with its sign and at least `least` digits. -/
def exponentText (least : Nat) (e : Int) : List Char :=
  let ds := Nat.toDigits 10 e.natAbs
  (if e < 0 then '-' else '+') :: List.replicate (least - ds.length) '0' ++ ds

/-- The text of a double in a layout. -/
def Layout.render (l : Layout) (x : Float) : String :=
  let sign (negative : Bool) (cs : List Char) : String :=
    String.ofList (if negative then '-' :: cs else cs)
  match parts x with
  | .nan => l.nan
  | .infinite negative => sign negative l.infinite.toList
  | .finite negative m q =>
    if m = 0 then sign negative ['0', '.', '0']
    else
      let (n, e) := shortest m q
      let digits := Nat.toDigits 10 n
      let top := e + digits.length - 1
      if l.leastPlain ≤ top ∧ top < l.firstMarked then sign negative (placePoint digits (top + 1))
      else
        let body := if digits.length = 1 then digits else digits.take 1 ++ '.' :: digits.drop 1
        sign negative (body ++ 'e' :: exponentText l.exponentWidth top)

/-- The text of a double. -/
def text (x : Float) : String := Layout.usual.render x

end SlidePress.Number
