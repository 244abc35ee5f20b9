import SlidePress.Text.Search
import SlidePress.Value.Order
import SlidePress.Value.Percent

/-! # Arithmetic of values

The operators of expressions: on numbers, where an integer beside a double becomes one, on texts
and other sequences, which are joined and repeated, and on marked-up texts, beside which a plain
text is escaped first. A truth value counts as zero or one.

* `Value.add`, `Value.mul`, `Value.mod` and so on: one operator each.
* `Value.contains`: whether a value is in another. -/

namespace SlidePress.Value

/-- The text that stands for a character inside markup. -/
def escapedChar : Char → List Char
  | '&' => "&amp;".toList
  | '<' => "&lt;".toList
  | '>' => "&gt;".toList
  | '\'' => "&#39;".toList
  | '"' => "&#34;".toList
  | c => [c]

/-- A text with the characters escaped that have a meaning in markup. -/
def escapeText (s : String) : String := String.ofList (s.toList.flatMap escapedChar)

/-- A value as marked-up text: what is marked up already stays as it is. -/
def escaped : Value → Value
  | markup s => markup s
  | v => markup (escapeText v.text)

/-- Whether one of two values is undefined. -/
def eitherUndefined : Value → Value → Bool
  | undefined, _ => true
  | _, undefined => true
  | _, _ => false

/-- Two numbers as integers or as doubles. -/
inductive Pair where
  | ints (m n : Int)
  | floats (x y : Float)

/-- Two numbers in one form. -/
def pairOf (a b : Value) : Attempt Pair :=
  match a.numeric?, b.numeric? with
  | some (.int m), some (.int n) => .ok (.ints m n)
  | some _, some _ => do return .floats (← doubleOf a) (← doubleOf b)
  | _, _ => .error (if eitherUndefined a b then .undefinedValue else .wrongType)

/-- The sum of two values, or two sequences joined. -/
def add (a b : Value) : Attempt Value :=
  match a, b with
  | markup s, markup t => .ok (markup (s ++ t))
  | markup s, str t => .ok (markup (s ++ escapeText t))
  | str s, markup t => .ok (markup (escapeText s ++ t))
  | markup s, undefined => .ok (markup s)
  | str s, str t => .ok (str (s ++ t))
  | list xs, list ys => .ok (list (xs ++ ys))
  | tuple xs, tuple ys => .ok (tuple (xs ++ ys))
  | bytes xs, bytes ys => .ok (bytes (xs ++ ys))
  | a, b => do
    match ← pairOf a b with
    | .ints m n => return int (m + n)
    | .floats x y => return float (x + y)

/-- The difference of two values; of two sets, what only the first holds. -/
def sub (a b : Value) : Attempt Value :=
  match a, b with
  | set xs, set ys => .ok (set (xs.filter fun x => !ys.any fun y => x.same y))
  | a, b => do
    match ← pairOf a b with
    | .ints m n => return int (m - n)
    | .floats x y => return float (x - y)

/-- The first size that no sequence can have. -/
def sizeLimit : Int := Number.pow2 63

/-- A list repeated; it has to have a size in the end. -/
def repeatList {α : Type} (n : Int) (xs : List α) : Attempt (List α) :=
  if n < -sizeLimit ∨ sizeLimit ≤ n ∨ sizeLimit ≤ n * xs.length then .error .overflow
  else if xs.isEmpty then .ok []
  else .ok (List.replicate n.toNat xs).flatten

/-- A sequence repeated. -/
def repeated? (n : Int) : Value → Option (Attempt Value)
  | str s => some ((repeatList n s.toList).map fun cs => str (String.ofList cs))
  | markup s => some ((repeatList n s.toList).map fun cs => markup (String.ofList cs))
  | list xs => some ((repeatList n xs).map list)
  | tuple xs => some ((repeatList n xs).map tuple)
  | bytes xs => some ((repeatList n xs).map bytes)
  | _ => none

/-- The integer or truth value that a value is. -/
def index? (v : Value) : Option Int :=
  match v.numeric? with
  | some (.int n) => some n
  | _ => none

/-- The product of two numbers, or a sequence repeated. -/
def mul (a b : Value) : Attempt Value :=
  let many := match a.index?, b.index? with
    | some n, none => repeated? n b
    | none, some n => repeated? n a
    | _, _ => none
  match many with
  | some v => v
  | none => do
    match ← pairOf a b with
    | .ints m n => return int (m * n)
    | .floats x y => return float (x * y)

/-- The quotient of two numbers. -/
def div (a b : Value) : Attempt Value := do
  match ← pairOf a b with
  | .ints m n =>
    if n = 0 then throw .zeroDivision
    else
      let x := Number.nearest (decide (m < 0) != decide (n < 0)) m.natAbs n.natAbs
      if x.isInf then throw .overflow else return float x
  | .floats x y => if y == 0 then throw .zeroDivision else return float (x / y)

/-- The largest whole double not above the quotient of two doubles. -/
def floorQuotient (x y : Float) : Float :=
  match Number.toFraction? x, Number.toFraction? y with
  | some (a, b), some (c, d) =>
    let num := a * d
    let den := b * c
    let n := num.fdiv den
    let negative := decide (n < 0) || (n == 0 && (x / y).toBits.toNat / Number.pow2 63 == 1)
    Number.nearest negative n.natAbs 1
  | some (a, _), none =>
    if y.isNaN then y
    else if a != 0 && decide (a < 0) != decide (y < 0) then Float.ofInt (-1)
    else x / y
  | none, _ => Number.notANumber

/-- The quotient of two numbers rounded down. -/
def floorDiv (a b : Value) : Attempt Value := do
  match ← pairOf a b with
  | .ints m n => if n = 0 then throw .zeroDivision else return int (m.fdiv n)
  | .floats x y => if y == 0 then throw .zeroDivision else return float (floorQuotient x y)

/-- The arguments of a marked-up text, escaped. -/
def escapedOperand : Value → Value
  | str s => str (escapeText s)
  | tuple xs => tuple (xs.map fun x => match x with
    | str s => str (escapeText s)
    | x => x)
  | v => v

/-- The remainder of two numbers, with the sign of the second, or a text with values in its
places. -/
def mod (a b : Value) : Attempt Value :=
  match a with
  | str s => do return str (← percent s b)
  | markup s => do return markup (← percent s (escapedOperand b))
  | a => do
    match ← pairOf a b with
    | .ints m n => if n = 0 then throw .zeroDivision else return int (m.fmod n)
    | .floats x y => if y == 0 then throw .zeroDivision else return float (Number.remainder x y)

/-- A power of doubles. -/
def powFloat (x y : Float) : Attempt Value :=
  if x == 0 && y < 0 then .error .zeroDivision
  else if x < 0 && x.isFinite && y.isFinite && !Number.isWhole y then .error .badValue
  else
    let z := Float.pow x y
    if z.isInf && x.isFinite && y.isFinite then .error .overflow else .ok (float z)

/-- A power. -/
def pow (a b : Value) : Attempt Value := do
  match ← pairOf a b with
  | .ints m n =>
    if 0 ≤ n then return int (Int.pow m n.toNat)
    else if m = 0 then throw .zeroDivision
    else powFloat (← doubleOf (int m)) (← doubleOf (int n))
  | .floats x y => powFloat x y

/-- A number with its sign reversed. -/
def negated (v : Value) : Attempt Value :=
  match v.numeric? with
  | some (.int n) => .ok (int (-n))
  | some (.float x) => .ok (float (-x))
  | none => .error (if eitherUndefined v v then .undefinedValue else .wrongType)

/-- A number itself; a truth value becomes one. -/
def unchanged (v : Value) : Attempt Value :=
  match v.numeric? with
  | some (.int n) => .ok (int n)
  | some (.float x) => .ok (float x)
  | none => .error (if eitherUndefined v v then .undefinedValue else .wrongType)

/-- Whether `v` is in `whole`: a piece of a text, an item of a sequence or set, a key of a mapping. -/
def contains (whole v : Value) : Attempt Bool :=
  match whole with
  | list xs => .ok (xs.any fun x => v.same x)
  | tuple xs => .ok (xs.any fun x => v.same x)
  | set xs => if v.hashable then .ok (xs.any fun x => v.same x) else .error .wrongType
  | map es => if v.hashable then .ok (Entries.find? es v).isSome else .error .wrongType
  | range a b c => .ok ((rangeList a b c).any fun n => v.same (int n))
  | undefined => .ok false
  | str s =>
    match v.text? with
    | some t => .ok (Text.contains t.toList s.toList)
    | none => .error .wrongType
  | markup s =>
    match v.text? with
    | some t => .ok (Text.contains t.toList s.toList)
    | none => .error .wrongType
  | bytes bs =>
    match v with
    | int n => if 0 ≤ n ∧ n < 256 then .ok (bs.contains n.toNat.toUInt8) else .error .badValue
    | _ => .error .wrongType
  | _ => .error .wrongType

@[simp] theorem add_str (s t : String) : add (str s) (str t) = .ok (str (s ++ t)) := rfl

@[simp] theorem add_int (m n : Int) : add (int m) (int n) = .ok (int (m + n)) := rfl

end SlidePress.Value
