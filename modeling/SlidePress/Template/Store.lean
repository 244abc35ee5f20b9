import SlidePress.Template.Arguments
import SlidePress.Template.Basic

/-! # The state of a running template

A running template keeps its variables in scopes, innermost first, and beside them the objects that
values refer to by number: records, running loops, sequences that can be gone through once, and
procedures. The caller keeps a state of its own in it for the helper objects that it supplies.

* `Store.lookup?`, `Store.assign`: the variables.
* `Run`: a computation on the state that may fail; a failure leaves no state.
* `iterate`: the items of a value, those of a one-pass sequence used up. -/

namespace SlidePress.Template

/-- The variables of one scope, the latest first. -/
abbrev Scope := List (String × Value)

/-- A running loop: its items, the position of the current one, and how deeply it is nested in
itself. -/
structure Loop where
  items : List Value
  position : Nat
  depth : Nat
  /-- The arguments when last asked whether they changed. -/
  seen : Option (List Value)
  /-- The procedure that runs the loop again on other items. -/
  again : Option Nat
  deriving Inhabited

/-- A sequence that can be gone through once, and why it ends early if it does. -/
structure Once where
  items : List Value
  fault : Option Fault
  deriving Inhabited

/-- What a procedure does. -/
inductive Action where
  /-- Prints the statements. -/
  | body (name : String) (params : List (String × Option Expr)) (stmts : List Stmt)
  /-- Runs a loop on other items. -/
  | loop (target : Target) (test : Option Expr) (depth : Nat) (stmts otherwise : List Stmt)
  deriving Inhabited

/-- A procedure, which sees the outermost `scopes` of the scopes there are. -/
structure Procedure where
  action : Action
  scopes : Nat
  deriving Inhabited

/-- The state of a running template. -/
structure Store (σ : Type) where
  scopes : List Scope
  records : List Entries
  loops : List Loop
  streams : List Once
  procedures : List Procedure
  /-- The state of the caller. -/
  host : σ

namespace Store

/-- A state with some variables in its outermost scope. -/
def start {σ : Type} (scope : Scope) (host : σ) : Store σ :=
  ⟨[[], scope], [], [], [], [], host⟩

/-- The value of a variable in the innermost scope that has it. -/
def lookupIn (name : String) : List Scope → Option Value
  | [] => none
  | s :: scopes =>
    match s.lookup name with
    | some v => some v
    | none => lookupIn name scopes

/-- The value of a variable. -/
def lookup? {σ : Type} (s : Store σ) (name : String) : Option Value := lookupIn name s.scopes

/-- Gives a variable a value in the innermost scope. -/
def assign {σ : Type} (s : Store σ) (name : String) (v : Value) : Store σ :=
  match s.scopes with
  | [] => { s with scopes := [[(name, v)]] }
  | top :: scopes => { s with scopes := ((name, v) :: top) :: scopes }

@[simp] theorem lookup?_assign_self {σ : Type} (s : Store σ) (name : String) (v : Value) :
    (s.assign name v).lookup? name = some v := by
  cases h : s.scopes <;> simp [assign, lookup?, lookupIn, h]

theorem lookup?_assign_of_ne {σ : Type} (s : Store σ) {name other : String} (v : Value)
    (h : other ≠ name) : (s.assign name v).lookup? other = s.lookup? other := by
  have h' : (other == name) = false := by simpa using h
  cases hs : s.scopes <;> simp [assign, lookup?, lookupIn, hs, List.lookup_cons, h']

@[simp] theorem host_assign {σ : Type} (s : Store σ) (name : String) (v : Value) :
    (s.assign name v).host = s.host := by
  unfold assign
  split <;> rfl

end Store

/-- A computation of a running template. -/
abbrev Run (σ : Type) (α : Type) := StateT (Store σ) (Except Fault) α

namespace Run

variable {σ : Type}

/-- What an attempt gives, with the state as it is. -/
def ofAttempt {α : Type} (a : Attempt α) : Run σ α := fun s => a.map fun x => (x, s)

/-- Fails. -/
def fail {α : Type} (f : Fault) : Run σ α := fun _ => .error f

/-- Runs in a new scope, which ends afterwards. -/
def inScope {α : Type} (scope : Scope) (r : Run σ α) : Run σ α := fun s => do
  let (a, s') ← r { s with scopes := scope :: s.scopes }
  return (a, { s' with scopes := s'.scopes.tail })

/-- Runs in a new scope on top of the outermost `n` scopes; the others are there again
afterwards. -/
def onTopOf {α : Type} (n : Nat) (scope : Scope) (r : Run σ α) : Run σ α := fun s => do
  let outer := s.scopes.drop (s.scopes.length - n)
  let (a, s') ← r { s with scopes := scope :: outer }
  return (a, { s' with scopes := s.scopes })

/-- Keeps a new record. -/
def newRecord (es : Entries) : Run σ Value := fun s =>
  .ok (.ref (.record s.records.length), { s with records := s.records ++ [es] })

/-- Keeps a new sequence that can be gone through once. -/
def newStream (o : Once) : Run σ Value := fun s =>
  .ok (.ref (.stream s.streams.length), { s with streams := s.streams ++ [o] })

/-- Keeps a new loop. -/
def newLoop (l : Loop) : Run σ Nat := fun s =>
  .ok (s.loops.length, { s with loops := s.loops ++ [l] })

/-- Keeps a new procedure that sees the scopes there are now. -/
def newProcedure (action : Action) : Run σ Nat := fun s =>
  .ok (s.procedures.length, { s with procedures := s.procedures ++ [⟨action, s.scopes.length⟩] })

/-- Changes a loop. -/
def setLoop (id : Nat) (l : Loop) : Run σ Unit := fun s =>
  .ok ((), { s with loops := s.loops.set id l })

/-- The value of a variable; a variable without one is undefined. -/
def valueOf (name : String) : Run σ Value := fun s =>
  .ok ((s.lookup? name).getD .undefined, s)

/-- Gives a variable a value in the innermost scope. -/
def assign (name : String) (v : Value) : Run σ Unit := fun s => .ok ((), s.assign name v)

/-- The items of a value. A sequence that can be gone through once is empty afterwards. -/
def iterate (v : Value) : Run σ (List Value) := do
  match v with
  | .ref (.stream id) =>
    let s ← get
    let o := s.streams.getD id default
    set { s with streams := s.streams.set id ⟨[], none⟩ }
    match o.fault with
    | some f => throw f
    | none => return o.items
  | .again _ _ => throw .tooDeep
  | v => ofAttempt (Attempt.ofOption .wrongType v.items?)

/-- The first item of a value, if there is one. -/
def first? (v : Value) : Run σ (Option Value) := do
  match v with
  | .ref (.stream id) =>
    let s ← get
    let o := s.streams.getD id default
    match o.items with
    | x :: rest =>
      set { s with streams := s.streams.set id { o with items := rest } }
      return some x
    | [] =>
      match o.fault with
      | some f => throw f
      | none => return none
  | v => return (← iterate v).head?

end Run

end SlidePress.Template
