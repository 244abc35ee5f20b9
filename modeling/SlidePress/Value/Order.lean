import SlidePress.Value.Basic

/-! # The order of values

Numbers are ordered by value, texts by code points, bytes by value, dates and times by time, and
sequences of one kind by their first difference; sets by inclusion. Values of different kinds have
no order, nor has a number beside one that is none.

* `Value.compare`: the order of two values.
* `Value.sortOn`: a list in the order of its keys; items with equal keys keep their places. -/

namespace SlidePress.Value

/-- The order of two texts, by code points. -/
def compareText (s t : String) : Ordering :=
  if s = t then .eq else if s < t then .lt else .gt

/-- The order of two lists of bytes. -/
def compareBytes : List UInt8 → List UInt8 → Ordering
  | [], [] => .eq
  | [], _ :: _ => .lt
  | _ :: _, [] => .gt
  | a :: as, b :: bs => if a < b then .lt else if b < a then .gt else compareBytes as bs

/-- The order of values that hold no others. -/
def compareScalar (a b : Value) : Attempt (Option Ordering) :=
  match a.numeric?, b.numeric? with
  | some m, some n => .ok (m.compare n)
  | _, _ =>
    match a.text?, b.text? with
    | some s, some t => .ok (some (compareText s t))
    | _, _ =>
      match a, b with
      | undefined, _ => .error .undefinedValue
      | _, undefined => .error .undefinedValue
      | bytes x, bytes y => .ok (some (compareBytes x y))
      | date x, date y => .ok (some (Ord.compare x.ordinal y.ordinal))
      | timestamp x, timestamp y =>
        if x.offset.isSome == y.offset.isSome then
          .ok (some (Ord.compare x.instant y.instant))
        else .error .wrongType
      | set xs, set ys =>
        let sub := allIn xs ys
        let sup := allIn ys xs
        .ok (if sub && sup then some .eq else if sub then some .lt else if sup then some .gt else none)
      | _, _ => .error .wrongType

mutual

/-- The order of two values; none where two values of one kind have no order. -/
def compare : Value → Value → Attempt (Option Ordering)
  | list xs, list ys => compareList xs ys
  | tuple xs, tuple ys => compareList xs ys
  | a, b => compareScalar a b
termination_by structural v => v

/-- The order of two sequences: that of their first difference. -/
def compareList : List Value → List Value → Attempt (Option Ordering)
  | [], [] => .ok (some .eq)
  | [], _ :: _ => .ok (some .lt)
  | _ :: _, [] => .ok (some .gt)
  | x :: xs, y :: ys => if same x y then compareList xs ys else compare x y
termination_by structural v => v

end

/-- Whether one value comes before another. -/
def less (a b : Value) : Attempt Bool := do return (← compare a b) == some .lt

/-- Puts an item behind all items whose keys do not come after its own. -/
def insertOn {α : Type} (e : Value × α) : List (Value × α) → Attempt (List (Value × α))
  | [] => .ok [e]
  | f :: fs => do
    if ← less e.1 f.1 then return e :: f :: fs
    else return f :: (← insertOn e fs)

/-- Items in the order of their keys; items with equal keys keep their places. -/
def sortOn {α : Type} (es : List (Value × α)) : Attempt (List α) := do
  let sorted ← es.foldlM (fun got e => insertOn e got) []
  return sorted.map Prod.snd

/-- Values in order. -/
def sorted (vs : List Value) : Attempt (List Value) := sortOn (vs.map fun v => (v, v))

theorem length_insertOn {α : Type} (e : Value × α) (es fs : List (Value × α))
    (h : insertOn e es = .ok fs) : fs.length = es.length + 1 := by
  induction es generalizing fs with
  | nil => cases h; rfl
  | cons f es ih =>
    simp only [insertOn, bind, Except.bind] at h
    split at h
    · cases h
    · split at h
      · cases h; rfl
      · split at h
        · cases h
        · rename_i r hr
          cases h
          simp [ih _ hr]

end SlidePress.Value
