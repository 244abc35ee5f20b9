import SlidePress.Json.Reader
import SlidePress.Reference.Basic

/-! # Where references come from

A source answers questions about references by name: for one name, or for several at once. It may
be unavailable, and a question may fail. A shelf is a source that holds its references itself; a
later reference takes the place of an earlier one with the same name.

* `ReferenceSource.ofFind`: a source that looks up several names one after the other.
* `Shelf.ofValue`, `Shelf.ofJson`, `Shelf.add`: filling a shelf.
* `findAll_ofFind_eq`: what such a source finds is what it finds name by name.
* `Shelf.findAll_ofFind`: a shelf that is asked for several names at once finds the same. -/

namespace SlidePress

/-- Why a question about references failed. -/
inductive ReferenceError where
  /-- A reference without a name. -/
  | nameless
  /-- An order of references that does not exist. -/
  | noOrder (shown : String)
  /-- The source failed with a report of its own. -/
  | down (report : String)
  | fault (f : Fault)
  deriving DecidableEq, Repr

/-- The orders that a bibliography may have. -/
inductive ReferenceOrder where
  /-- As cited. -/
  | cited
  /-- By the family name of the first author. -/
  | author
  /-- By year. -/
  | year
  deriving DecidableEq, Repr

namespace ReferenceOrder

/-- The orders there are. -/
def all : List ReferenceOrder := [cited, author, year]

/-- The written form of an order. -/
def name : ReferenceOrder → String
  | cited => "citation-order"
  | author => "author"
  | year => "year"

/-- The order with a given written form. -/
def ofName? (s : String) : Option ReferenceOrder := all.find? fun o => o.name == s

theorem ofName?_name (o : ReferenceOrder) : ofName? o.name = some o := by
  cases o <;> rfl

end ReferenceOrder

namespace ReferenceError

/-- The report of an error; faults are described by `describe`. -/
def message (describe : Fault → String) : ReferenceError → String
  | nameless => "CSL item without 'id'"
  | noOrder shown => "Invalid sort " ++ shown ++ ", must be one of " ++
      (Value.tuple (ReferenceOrder.all.map fun o => .str o.name)).literal
  | down report => report
  | fault f => describe f

end ReferenceError

/-- The answer to a question about references. -/
abbrev Lookup (α : Type) := Except ReferenceError α

/-- An attempt as an answer. -/
def Lookup.ofAttempt {α : Type} (a : Attempt α) : Lookup α := a.mapError ReferenceError.fault

/-- Where references come from. -/
structure ReferenceSource where
  available : Bool
  /-- The reference with a name. -/
  find : String → Lookup (Option Reference)
  /-- The references with names, each name once. -/
  findAll : List String → Lookup (List (String × Reference))

namespace ReferenceSource

/-- The references with some names, looked up one after the other. -/
def oneByOne (find : String → Lookup (Option Reference)) :
    List String → Lookup (List (String × Reference))
  | [] => .ok []
  | id :: ids => do
    let found ← find id
    let rest ← oneByOne find ids
    match found with
    | some r => return (id, r) :: rest
    | none => return rest

/-- A source that looks up several names one after the other. -/
def ofFind (available : Bool) (find : String → Lookup (Option Reference)) : ReferenceSource :=
  ⟨available, find, fun ids => oneByOne find ids.eraseDups⟩

theorem findAll_ofFind_eq (available : Bool) (held : String → Option Reference)
    (ids : List String) :
    (ofFind available fun id => .ok (held id)).findAll ids =
      .ok (ids.eraseDups.filterMap fun id => (held id).map fun r => (id, r)) := by
  simp only [ofFind]
  induction ids.eraseDups with
  | nil => rfl
  | cons id ids ih =>
    simp only [oneByOne, bind, Except.bind, ih, List.filterMap_cons]
    cases held id <;> rfl

end ReferenceSource

/-- References held together, each under its name. -/
structure Shelf where
  held : Entries
  deriving Inhabited

namespace Shelf

/-- No references. -/
def empty : Shelf := ⟨[]⟩

/-- Puts an item on a shelf. -/
def add (s : Shelf) (item : Value) : Lookup Shelf :=
  match item with
  | .map es =>
    let id := Entries.getD es "id"
    if !id.truthy then .error .nameless
    else if !id.hashable then .error (.fault .wrongType)
    else .ok ⟨s.held.insert id item⟩
  | _ => .error (.fault .noAttribute)

/-- Puts items on a shelf. -/
def addAll (s : Shelf) (items : List Value) : Lookup Shelf := items.foldlM add s

/-- The shelf with the items of a list. -/
def ofValue (v : Value) : Lookup Shelf :=
  match v.items? with
  | some items => empty.addAll items
  | none => .error (.fault .wrongType)

/-- The shelf with the items of a text; a single item needs no list around it. -/
def ofJson (s : String) : Lookup Shelf := do
  match ← Lookup.ofAttempt (Json.read s) with
  | .map es => ofValue (.list [.map es])
  | v => ofValue v

/-- The reference with a name. -/
def get? (s : Shelf) (id : Value) : Option Reference :=
  ((s.held.find? id).bind Value.entries?).map Reference.mk

/-- The names on a shelf, in the order in which they came up first. -/
def ids (s : Shelf) : List Value := s.held.map Prod.fst

/-- The references on a shelf with some names, each name once. -/
def findAll (s : Shelf) (ids : List String) : List (String × Reference) :=
  ids.eraseDups.filterMap fun id => (s.get? (.str id)).map fun r => (id, r)

/-- A shelf as a source. -/
def source (s : Shelf) : ReferenceSource :=
  ⟨true, fun id => .ok (s.get? (.str id)), fun ids => .ok (s.findAll ids)⟩

/-- What is found on a shelf at once is what is found on it name by name. -/
theorem findAll_ofFind (s : Shelf) (ids : List String) :
    (ReferenceSource.ofFind true s.source.find).findAll ids = s.source.findAll ids :=
  ReferenceSource.findAll_ofFind_eq true (fun id => s.get? (.str id)) ids

end Shelf

end SlidePress
