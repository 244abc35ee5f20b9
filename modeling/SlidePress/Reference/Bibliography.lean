import SlidePress.Reference.Source
import SlidePress.Value.Order

/-! # Bibliographies

A bibliography has an entry for each of some references that its source knows, in one of three
orders, and names those that the source does not know.

* `ReferenceOrder.arrange`: references in an order.
* `Bibliography.generate`: the bibliography of some references. -/

namespace SlidePress

/-- References by keys; those with equal keys keep their places. -/
def Reference.sortBy (key : Reference → Attempt Value) (rs : List Reference) :
    Attempt (List Reference) := do
  let keyed ← rs.mapM fun r => do return (← key r, r)
  Value.sortOn keyed

namespace ReferenceOrder

/-- The order that a value names. -/
def ofValue (v : Value) : Lookup ReferenceOrder :=
  match v.text?.bind ofName? with
  | some o => .ok o
  | none => .error (.noOrder v.literal)

/-- References in an order. -/
def arrange (o : ReferenceOrder) (rs : List Reference) : Attempt (List Reference) :=
  match o with
  | cited => .ok rs
  | author => Reference.sortBy Reference.firstFamily rs
  | year => Reference.sortBy (fun r => do return .int (← r.year)) rs

end ReferenceOrder

/-- References in the order that a value names. -/
def Reference.arranged (order : Value) (rs : List Reference) : Lookup (List Reference) := do
  let o ← ReferenceOrder.ofValue order
  Lookup.ofAttempt (o.arrange rs)

/-- The bibliography of some references. -/
structure Bibliography where
  entries : List String
  items : List Reference
  /-- The names that the source does not know. -/
  missing : List String
  deriving Inhabited

namespace Bibliography

/-- Nothing. -/
def empty : Bibliography := ⟨[], [], []⟩

/-- The bibliography of references with some names, in the order that a value names. Without names
the order is not looked at. -/
def generate (source : ReferenceSource) (ids : List String) (order : Value) :
    Lookup Bibliography := do
  let ids := ids.eraseDups
  if ids.isEmpty then return empty
  else
    let found ← source.findAll ids
    let items ← Reference.arranged order (ids.filterMap fun id => found.lookup id)
    let entries ← Lookup.ofAttempt (items.mapM Reference.fullEntry)
    return ⟨entries, items, ids.filter fun id => (found.lookup id).isNone⟩

@[simp] theorem generate_nil (source : ReferenceSource) (order : Value) :
    generate source [] order = .ok empty := rfl

end Bibliography

end SlidePress
