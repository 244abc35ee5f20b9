import SlidePress.Number.Power

/-! # Double precision numbers as exact fractions

A finite double is `± m · 2^q`. `parts` reads the three off the bits, `nearest` rounds any
fraction to the nearest double (a tie goes to the even mantissa), and the comparisons and integral
parts that a value needs are carried out on the exact fractions. -/

namespace SlidePress.Number

/-- What the bits of a double stand for. -/
inductive Parts where
  /-- Not a number. -/
  | nan
  /-- An infinity of either sign. -/
  | infinite (negative : Bool)
  /-- The number `± m · 2^q`. -/
  | finite (negative : Bool) (m : Nat) (q : Int)
  deriving DecidableEq, Repr

/-- Reads the bits of a double. -/
def parts (x : Float) : Parts :=
  let bits := x.toBits.toNat
  let negative := bits / pow2 63 == 1
  let exponent : Nat := bits / pow2 52 % pow2 11
  let fraction : Nat := bits % pow2 52
  if exponent = 2047 then (if fraction = 0 then .infinite negative else .nan)
  else if exponent = 0 then .finite negative fraction (-1074)
  else .finite negative (pow2 52 + fraction) ((exponent : Int) - 1075)

/-- The double with the given sign, mantissa below `2^53` and exponent. -/
def assemble (negative : Bool) (m : Nat) (q : Int) : Float :=
  let sign := if negative then pow2 63 else 0
  if m < pow2 52 then Float.ofBits (sign + m).toUInt64
  else
    let e := (q + 1075).toNat
    if 2047 ≤ e then Float.ofBits (sign + 2047 * pow2 52).toUInt64
    else Float.ofBits (sign + e * pow2 52 + (m - pow2 52)).toUInt64

/-- Positive infinity. -/
def infinity : Float := Float.ofBits 0x7FF0000000000000

/-- Not a number. -/
def notANumber : Float := Float.ofBits 0x7FF8000000000000

/-- A quotient rounded to the nearest integer, a half to the even neighbour. -/
def roundDiv (num den : Nat) : Nat :=
  let low := num / den
  let twice := 2 * (num % den)
  if den < twice ∨ (twice = den ∧ low % 2 = 1) then low + 1 else low

/-- The double nearest to `num / den` for a positive `den`. -/
def nearest (negative : Bool) (num den : Nat) : Float :=
  if num = 0 then assemble negative 0 0
  else
    let guess : Int := (Nat.log2 num : Int) - Nat.log2 den
    -- the exponent that leaves 53 bits, or the smallest one
    let scaled (q : Int) : Nat × Nat := if 0 ≤ q then (num, den * pow2 q.toNat)
      else (num * pow2 (-q).toNat, den)
    let q₀ := guess - 52
    let (a, b) := scaled q₀
    let q₁ := if a / b < pow2 52 then q₀ - 1 else q₀
    let q := if q₁ < -1074 then -1074 else q₁
    let (a, b) := scaled q
    let m := roundDiv a b
    if m = pow2 53 then assemble negative (pow2 52) (q + 1) else assemble negative m q

/-- The double nearest to an integer; none if it is out of range. -/
def ofInt? (n : Int) : Option Float :=
  let x := nearest (n < 0) n.natAbs 1
  if x.isInf then none else some x

/-- The double nearest to `digits · 10^e`. -/
def ofDecimal (negative : Bool) (digits : Nat) (e : Int) : Float :=
  let width : Int := (toString digits).length
  if digits = 0 ∨ e + width < -400 then assemble negative 0 0
  else if 400 < e + width then assemble negative (pow2 52) 972
  else if 0 ≤ e then nearest negative (digits * pow10 e.toNat) 1
  else nearest negative digits (pow10 (-e).toNat)

/-- A finite double as a fraction with a positive denominator. -/
def toFraction? (x : Float) : Option (Int × Nat) :=
  match parts x with
  | .finite negative m q =>
    let signed : Int := if negative then -(m : Int) else m
    some (if 0 ≤ q then (signed * pow2 q.toNat, 1) else (signed, pow2 (-q).toNat))
  | _ => none

/-- Whether a double is a whole number. -/
def isWhole (x : Float) : Bool :=
  match toFraction? x with
  | some (num, den) => num % den == 0
  | none => false

/-- The integer part of a finite double, toward zero. -/
def truncate? (x : Float) : Option Int := (toFraction? x).map fun (num, den) => num.tdiv den

/-- The largest integer not above a finite double. -/
def floor? (x : Float) : Option Int := (toFraction? x).map fun (num, den) => num.fdiv den

/-- The smallest integer not below a finite double. -/
def ceiling? (x : Float) : Option Int := (toFraction? x).map fun (num, den) => -((-num).fdiv den)

/-- The nearest integer to a finite double, a half to the even neighbour. -/
def roundWhole? (x : Float) : Option Int :=
  (toFraction? x).map fun (num, den) =>
    let n : Int := roundDiv num.natAbs den
    if num < 0 then -n else n

/-- The order of an integer and a double, compared exactly; none beside a number that is none. -/
def compareInt (n : Int) (x : Float) : Option Ordering :=
  match parts x with
  | .nan => none
  | .infinite negative => some (if negative then .gt else .lt)
  | .finite .. =>
    match toFraction? x with
    | some (num, den) => some (compare (n * den) num)
    | none => none

/-- The remainder of two finite doubles that has the sign of the divisor, exact before rounding. -/
def remainder (x y : Float) : Float :=
  match toFraction? x, toFraction? y with
  | some (a, b), some (c, d) =>
    let num := (a * d).fmod (c * b)
    if num = 0 then assemble (c < 0 || y.toBits.toNat / pow2 63 == 1) 0 0
    else nearest (num < 0) num.natAbs (b * d)
  | some (a, _), none =>
    if y.isNaN then notANumber
    else if a = 0 then (if y < 0 then assemble true 0 0 else assemble false 0 0)
    else if (a < 0) = (y < 0) then x else y
  | none, _ => notANumber

theorem roundDiv_le (num den : Nat) : roundDiv num den ≤ num / den + 1 := by
  unfold roundDiv
  dsimp only
  split <;> omega

theorem le_roundDiv (num den : Nat) : num / den ≤ roundDiv num den := by
  unfold roundDiv
  dsimp only
  split <;> omega

end SlidePress.Number
