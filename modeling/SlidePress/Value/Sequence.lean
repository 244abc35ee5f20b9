import SlidePress.Value.Arithmetic

/-! # Positions and stretches of sequences

The items of a sequence are counted from zero; negative positions count from the end. A stretch is
given by where it begins, where it ends and the step between its items, each of which may be left
out.

* `Value.at?`: the item at a position.
* `Value.stretch`: the items of a stretch, as a sequence of the same kind. -/

namespace SlidePress.Value

/-- The place in a sequence of a given length that a position stands for. -/
def placeOf? (length : Nat) (i : Int) : Option Nat :=
  let k := if i < 0 then i + length else i
  if 0 ≤ k ∧ k < length then some k.toNat else none

/-- The item of a sequence at a position. -/
def at? (v : Value) (i : Int) : Option Value :=
  match v with
  | list xs => (placeOf? xs.length i).bind fun k => xs[k]?
  | tuple xs => (placeOf? xs.length i).bind fun k => xs[k]?
  | str s =>
    let cs := s.toList
    (placeOf? cs.length i).bind fun k => cs[k]?.map fun c => str (String.singleton c)
  | markup s =>
    let cs := s.toList
    (placeOf? cs.length i).bind fun k => cs[k]?.map fun c => markup (String.singleton c)
  | bytes bs => (placeOf? bs.length i).bind fun k => bs[k]?.map fun b => int b.toNat
  | range a b c => (placeOf? (rangeLength a b c) i).map fun k => int (a + k * c)
  | _ => none

/-- Where a stretch begins and ends in a sequence of a given length, as positions that may lie one
before the first and one behind the last. -/
def stretchBounds (length : Nat) (start stop : Option Int) (step : Int) : Int × Int :=
  let adjust (i : Int) : Int :=
    let k := if i < 0 then i + length else i
    if k < 0 then (if step < 0 then -1 else 0)
    else if (length : Int) ≤ k then (if step < 0 then (length : Int) - 1 else length)
    else k
  let first := match start with
    | some i => adjust i
    | none => if step < 0 then (length : Int) - 1 else 0
  let last := match stop with
    | some i => adjust i
    | none => if step < 0 then -1 else length
  (first, last)

/-- The items of a list in a stretch. -/
def stretchList {α : Type} (xs : List α) (start stop : Option Int) (step : Int) : List α :=
  let (first, last) := stretchBounds xs.length start stop step
  if step = 1 then (xs.drop first.toNat).take (last - first).toNat
  else
    let table := xs.toArray
    (rangeList first last step).filterMap fun i => table[i.toNat]?

/-- A part of a stretch: an integer, or null where it is left out. -/
def boundOf? : Value → Attempt (Option Int)
  | null => .ok none
  | v =>
    match v.index? with
    | some i => .ok (some i)
    | none => .error .wrongType

/-- The items of a sequence in a stretch, as a sequence of the same kind. -/
def stretch (v start stop step : Value) : Attempt Value := do
  let a ← boundOf? start
  let b ← boundOf? stop
  let c := (← boundOf? step).getD 1
  let cut {α : Type} (xs : List α) (f : List α → Value) : Attempt Value :=
    if c = 0 then .error .badValue else .ok (f (stretchList xs a b c))
  match v with
  | list xs => cut xs list
  | tuple xs => cut xs tuple
  | str s => cut s.toList fun cs => str (String.ofList cs)
  | markup s => cut s.toList fun cs => markup (String.ofList cs)
  | bytes bs => cut bs bytes
  | range x y z =>
    if c = 0 then throw .badValue
    else
      let (first, last) := stretchBounds (rangeLength x y z) a b c
      return range (x + first * z) (x + last * z) (z * c)
  | undefined => throw .undefinedValue
  | _ => throw .wrongType

/-- The number of items of a sequence, set or mapping. -/
def size? : Value → Option Nat
  | str s => some s.length
  | markup s => some s.length
  | bytes bs => some bs.length
  | list xs => some xs.length
  | tuple xs => some xs.length
  | set xs => some xs.length
  | map es => some es.length
  | range a b c => some (rangeLength a b c)
  | undefined => some 0
  | again _ _ => some 1
  | _ => none

/-- The items that a value can be gone through for, those of sequences that are kept elsewhere
apart. -/
def items? : Value → Option (List Value)
  | str s => some (s.toList.map fun c => str (String.singleton c))
  | markup s => some (s.toList.map fun c => str (String.singleton c))
  | bytes bs => some (bs.map fun b => int b.toNat)
  | list xs => some xs
  | tuple xs => some xs
  | set xs => some xs
  | map es => some (es.map Prod.fst)
  | range a b c => some ((rangeList a b c).map int)
  | undefined => some []
  | _ => none

theorem stretchList_all {α : Type} (xs : List α) : stretchList xs none none 1 = xs := by
  simp [stretchList, stretchBounds]

end SlidePress.Value
