import SlidePress.Calendar
import SlidePress.Fault

/-! # Values

The one type of dynamic values: the data that YAML and JSON documents hold, and beside it the
things that only template expressions handle (undefined values, marked-up texts, ranges, methods
and references to objects that a running template keeps).

A mapping is the list of its entries in the order of insertion, with keys that are pairwise
different under `Value.same`; `Entries.insert` keeps both. Numbers compare by value whatever their
kind, and a truth value counts as `0` or `1`. A list or mapping may occur inside itself; the
occurrence says how far out the whole is, so what is taken out of it has to be told.

* `Value.same`: equality of values.
* `Value.truthy`: what counts as true.
* `Value.members`, `Entries.members`: what is in a list or mapping.
* `Entries.find?`, `Entries.insert`: look-up and change of a mapping. -/

namespace SlidePress

/-- Something a running template keeps and refers to by number or name. -/
inductive Ref where
  /-- A helper object that the caller supplies. -/
  | helper (name : String)
  /-- A function of the template language. -/
  | builtin (name : String)
  /-- A procedure defined in the template. -/
  | procedure (id : Nat)
  /-- A record of assignable fields. -/
  | record (id : Nat)
  /-- The state of a running loop. -/
  | loop (id : Nat)
  /-- A sequence that can be gone through once. -/
  | stream (id : Nat)
  deriving DecidableEq, Repr, Inhabited

/-- A dynamic value. -/
inductive Value where
  | null
  | bool (b : Bool)
  | int (n : Int)
  | float (x : Float)
  | str (s : String)
  /-- A text that needs no escaping. -/
  | markup (s : String)
  | bytes (bs : List UInt8)
  | date (d : Date)
  | timestamp (t : Timestamp)
  | list (xs : List Value)
  | tuple (xs : List Value)
  | set (xs : List Value)
  | map (es : List (Value × Value))
  /-- The integers from `start` in steps of `step` up to but not including `stop`. -/
  | range (start stop step : Int)
  /-- A list or mapping inside itself: the one around it, or one that is `up` lists and mappings
  further out. -/
  | again (up : Nat) (isMap : Bool)
  | undefined
  /-- An operation of a value that has not been called yet. -/
  | method (owner : Value) (name : String)
  | ref (r : Ref)
  deriving Inhabited

/-- The entries of a mapping. -/
abbrev Entries := List (Value × Value)

/-- The number of integers in a range. -/
def rangeLength (start stop step : Int) : Nat :=
  if 0 < step then ((stop - start + step - 1).fdiv step).toNat
  else if step < 0 then ((start - stop - step - 1).fdiv (-step)).toNat
  else 0

/-- The integers of a range. -/
def rangeList (start stop step : Int) : List Int :=
  (List.range (rangeLength start stop step)).map fun i : Nat => start + (i : Int) * step

namespace Value

/-- A number or truth value, as a number. -/
inductive Numeric where
  | int (n : Int)
  | float (x : Float)

/-- The number a value stands for. -/
def numeric? : Value → Option Numeric
  | bool b => some (.int (if b then 1 else 0))
  | int n => some (.int n)
  | float x => some (.float x)
  | _ => none

/-- The text a value holds. -/
def text? : Value → Option String
  | str s => some s
  | markup s => some s
  | _ => none

/-- The order of two numbers, compared exactly; none beside a number that is none. -/
def Numeric.compare : Numeric → Numeric → Option Ordering
  | .int m, .int n => some (Ord.compare m n)
  | .int m, .float y => Number.compareInt m y
  | .float x, .int n => (Number.compareInt n x).map Ordering.swap
  | .float x, .float y =>
    if x == y then some .eq else if x < y then some .lt else if y < x then some .gt else none

/-- Equality of values that hold no others. -/
def sameScalar (a b : Value) : Bool :=
  match a.numeric?, b.numeric? with
  | some m, some n => m.compare n == some .eq
  | none, none =>
    match a.text?, b.text? with
    | some s, some t => s == t
    | none, none =>
      match a, b with
      | null, null => true
      | undefined, undefined => true
      | bytes x, bytes y => x == y
      | date x, date y => x == y
      | timestamp x, timestamp y => x.same y
      | range a b c, range x y z => rangeList a b c == rangeList x y z
      | ref x, ref y => x == y
      | _, _ => false
    | _, _ => false
  | _, _ => false

mutual

/-- Equality of values: numbers by value, texts by content, sequences of one kind element by
element, sets and mappings without regard to order. -/
def same : Value → Value → Bool
  | list xs, list ys => sameList xs ys
  | tuple xs, tuple ys => sameList xs ys
  | set xs, set ys => xs.length == ys.length && allIn xs ys
  | map es, map fs => es.length == fs.length && sameEntries es fs
  | method a m, method b n => m == n && same a b
  | a, b => sameScalar a b
termination_by structural v => v

/-- Equality element by element. -/
def sameList : List Value → List Value → Bool
  | [], [] => true
  | x :: xs, y :: ys => same x y && sameList xs ys
  | _, _ => false
termination_by structural v => v

/-- Every element occurs in the other list. -/
def allIn : List Value → List Value → Bool
  | [], _ => true
  | x :: xs, ys => ys.any (fun y => same x y) && allIn xs ys
termination_by structural v => v

/-- Every entry has an equal entry in the other list. -/
def sameEntries : List (Value × Value) → List (Value × Value) → Bool
  | [], _ => true
  | (k, v) :: es, fs => fs.any (fun f => same k f.1 && same v f.2) && sameEntries es fs
termination_by structural v => v

end

/-- What counts as true: everything but null, false, zero, undefined values and whatever is
empty. -/
def truthy : Value → Bool
  | null => false
  | bool b => b
  | int n => n != 0
  | float x => x != 0
  | str s => !s.isEmpty
  | markup s => !s.isEmpty
  | bytes bs => !bs.isEmpty
  | list xs => !xs.isEmpty
  | tuple xs => !xs.isEmpty
  | set xs => !xs.isEmpty
  | map es => !es.isEmpty
  | range a b c => rangeLength a b c != 0
  | undefined => false
  | _ => true

mutual

/-- A value that can be a key of a mapping: none that can change. -/
def hashable : Value → Bool
  | list _ => false
  | set _ => false
  | map _ => false
  | again _ _ => false
  | tuple xs => allHashable xs
  | _ => true
termination_by structural v => v

/-- All values can be keys. -/
def allHashable : List Value → Bool
  | [] => true
  | x :: xs => hashable x && allHashable xs
termination_by structural v => v

end

/-- A mapping, as its entries. -/
def entries? : Value → Option Entries
  | map es => some es
  | _ => none

/-- A mapping or an occurrence of one inside itself. -/
def isMap : Value → Bool
  | map _ => true
  | again _ b => b
  | _ => false

/-- A list or an occurrence of one inside itself. -/
def isList : Value → Bool
  | list _ => true
  | again _ b => !b
  | _ => false

/-- A text, marked up or not. -/
def isText (v : Value) : Bool := v.text?.isSome

/-- A number that is not a truth value. -/
def isNumber : Value → Bool
  | int _ => true
  | float _ => true
  | _ => false

mutual

/-- A value taken out of a list or mapping that is `depth` lists and mappings further out than the
one around it: where the whole occurs inside itself, it is put in. -/
def outOf (whole : Value) : Nat → Value → Value
  | depth, list xs => list (outOfList whole (depth + 1) xs)
  | depth, tuple xs => tuple (outOfList whole depth xs)
  | depth, map es => map (outOfEntries whole (depth + 1) es)
  | depth, again up isMap => if up = depth then whole else again up isMap
  | _, v => v
termination_by structural _ v => v

/-- Values taken out of a list or mapping. -/
def outOfList (whole : Value) : Nat → List Value → List Value
  | _, [] => []
  | depth, x :: xs => outOf whole depth x :: outOfList whole depth xs
termination_by structural _ v => v

/-- Entries whose values are taken out of a list or mapping. -/
def outOfEntries (whole : Value) : Nat → List (Value × Value) → List (Value × Value)
  | _, [] => []
  | depth, (k, v) :: es => (k, outOf whole depth v) :: outOfEntries whole depth es
termination_by structural _ v => v

end

/-- The items of a list, each for itself. -/
def members (xs : List Value) : List Value := outOfList (list xs) 0 xs

end Value

namespace Entries

/-- The entries of a mapping, each for itself. -/
def members (es : Entries) : Entries := Value.outOfEntries (.map es) 0 es

/-- The value at a key. -/
def find? (es : Entries) (k : Value) : Option Value :=
  (List.find? (fun e => k.same e.1) es).map Prod.snd

/-- The value at a text key. -/
def get? (es : Entries) (name : String) : Option Value := find? es (.str name)

/-- The value at a text key, null where there is none. -/
def getD (es : Entries) (name : String) : Value := (get? es name).getD .null

/-- Sets the value at a key: in place where the key is present, at the end otherwise. -/
def insert : Entries → Value → Value → Entries
  | [], k, v => [(k, v)]
  | (k', v') :: es, k, v => if k.same k' then (k', v) :: es else (k', v') :: insert es k v

/-- Takes over all entries of another mapping. -/
def update (es fs : Entries) : Entries := fs.foldl (fun es f => es.insert f.1 f.2) es

/-- The mapping of a list of pairs, where a later pair wins over an earlier one with the same
key. -/
def ofPairs (ps : List (Value × Value)) : Entries := update [] ps

/-- A mapping from names. -/
def ofNames (ps : List (String × Value)) : Entries := ps.map fun p => (.str p.1, p.2)

@[simp] theorem find?_nil (k : Value) : find? [] k = none := rfl

theorem find?_cons (e : Value × Value) (es : Entries) (k : Value) :
    find? (e :: es) k = if k.same e.1 then some e.2 else find? es k := by
  unfold find?
  rw [List.find?_cons]
  cases k.same e.1 <;> rfl

/-- What was set is found, whatever else the mapping holds. -/
theorem find?_insert_self (es : Entries) (k v : Value) (h : k.same k = true) :
    find? (es.insert k v) k = some v := by
  induction es with
  | nil => simp [insert, find?_cons, h]
  | cons e es ih =>
    obtain ⟨k', v'⟩ := e
    unfold insert
    split
    · rename_i hk; simp [find?_cons, hk]
    · rename_i hk; simp only [find?_cons, hk]; exact ih

end Entries

end SlidePress
