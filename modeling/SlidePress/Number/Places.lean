import SlidePress.Number.Shortest

/-! # Doubles to a given number of places

Fixed places, fixed significant digits with an exponent, and the general form that chooses between
the two. All round the exact value once, a half to the even neighbour. -/

namespace SlidePress.Number

/-- The digits of a number, with zeros in front up to a given width. -/
def padded (least n : Nat) : List Char :=
  let ds := Nat.toDigits 10 n
  List.replicate (least - ds.length) '0' ++ ds

/-- A fraction with a given number of places behind the point. -/
def fixedFraction (places num den : Nat) : List Char :=
  let ds := padded (places + 1) (roundDiv (num * pow10 places) den)
  let k := ds.length - places
  if places = 0 then ds else ds.take k ++ '.' :: ds.drop k

/-- A positive fraction rounded to `digits + 1` significant digits: the digits as one number, and
the decimal exponent of the first. -/
def significant (digits num den : Nat) : Nat × Int :=
  let e := magnitude num den
  let shift := (digits : Int) - e
  let n := if 0 ≤ shift then roundDiv (num * pow10 shift.toNat) den
    else roundDiv num (den * pow10 (-shift).toNat)
  if n = pow10 (digits + 1) then (pow10 digits, e + 1) else (n, e)

/-- A fraction with one digit before the point, `places` behind it and an exponent. -/
def scientificFraction (places num den : Nat) : List Char :=
  let (n, e) := if num = 0 then (0, 0) else significant places num den
  let ds := padded (places + 1) n
  (if places = 0 then ds else ds.take 1 ++ '.' :: ds.drop 1) ++ 'e' :: exponentText 2 e

/-- A text with a point, without the zeros at its end and without a point that ends it. -/
def trimZeros (cs : List Char) : List Char :=
  if cs.contains '.' then
    let r := cs.reverse.dropWhile (· == '0')
    (match r with
      | '.' :: r => r
      | r => r).reverse
  else cs

/-- A fraction with at most `digits` significant digits, in whichever form is the shorter. -/
def generalFraction (digits num den : Nat) : List Char :=
  let p := if digits = 0 then 1 else digits
  let (_, e) := if num = 0 then (0, 0) else significant (p - 1) num den
  if -4 ≤ e ∧ e < p then trimZeros (fixedFraction ((p : Int) - 1 - e).toNat num den)
  else
    let cs := scientificFraction (p - 1) num den
    trimZeros (cs.takeWhile (· != 'e')) ++ cs.dropWhile (· != 'e')

/-- The three written forms with a precision. -/
inductive Style where
  | fixed
  | scientific
  | general
  deriving DecidableEq

/-- The sign of a double, and its text without the sign. -/
def written (style : Style) (precision : Nat) (x : Float) : Bool × List Char :=
  match parts x with
  | .nan => (false, "nan".toList)
  | .infinite negative => (negative, "inf".toList)
  | .finite negative m q =>
    let (num, den) := if 0 ≤ q then (m * pow2 q.toNat, 1) else (m, pow2 (-q).toNat)
    (negative, match style with
      | .fixed => fixedFraction precision num den
      | .scientific => scientificFraction precision num den
      | .general => generalFraction precision num den)

/-- A double rounded to a number of decimal places, which may be negative; an infinite result is
none. -/
def roundPlaces? (places : Int) (x : Float) : Option Float :=
  match parts x with
  | .finite negative m q =>
    let (num, den) := if 0 ≤ q then (m * pow2 q.toNat, 1) else (m, pow2 (-q).toNat)
    if 323 < places then some x
    else if places < -323 then some (assemble negative 0 0)
    else
      let n := if 0 ≤ places then roundDiv (num * pow10 places.toNat) den
        else roundDiv num (den * pow10 (-places).toNat)
      let y := ofDecimal negative n (-places)
      if y.isInf then none else some y
  | _ => some x

/-- An integer rounded to a multiple of a power of ten, a half to the even neighbour. -/
def roundTens (zeros : Nat) (n : Int) : Int :=
  let unit := pow10 zeros
  let k : Int := roundDiv n.natAbs unit * unit
  if n < 0 then -k else k

end SlidePress.Number
