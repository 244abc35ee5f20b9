import SlidePress.Template.Access

/-! # Tests of values

The questions that an expression can ask about a value behind the word `is`: of its kind, of its
size beside another value, of its divisors, of its letters.

* `Test.names`: the tests there are.
* `Test.ask`: asks one. -/

namespace SlidePress.Template.Test

/-- Questions about the kind of a value. -/
def kinds : List (String × (Value → Bool)) :=
  [("defined", fun v => match v with
      | .undefined => false
      | _ => true),
    ("undefined", fun v => match v with
      | .undefined => true
      | _ => false),
    ("none", fun v => match v with
      | .null => true
      | _ => false),
    ("boolean", fun v => match v with
      | .bool _ => true
      | _ => false),
    ("true", fun v => match v with
      | .bool b => b
      | _ => false),
    ("false", fun v => match v with
      | .bool b => !b
      | _ => false),
    ("integer", fun v => match v with
      | .int _ => true
      | _ => false),
    ("float", fun v => match v with
      | .float _ => true
      | _ => false),
    ("number", fun v => v.numeric?.isSome),
    ("string", Value.isText),
    ("mapping", Value.isMap),
    ("sequence", fun v => match v with
      | .set _ => false
      | v => v.size?.isSome),
    ("iterable", fun v => match v with
      | .ref (.stream _) => true
      | v => v.size?.isSome),
    ("callable", fun v => match v with
      | .method _ _ => true
      | .undefined => true
      | .ref (.builtin _) => true
      | .ref (.procedure _) => true
      | .ref (.loop _) => true
      | _ => false),
    ("escaped", fun v => match v with
      | .markup _ => true
      | _ => false)]

/-- The tests that compare with another value. -/
def comparisons : List (String × Comparison) :=
  [("eq", .eq), ("equalto", .eq), ("ne", .ne), ("lt", .lt), ("lessthan", .lt), ("le", .le),
    ("gt", .gt), ("greaterthan", .gt), ("ge", .ge), ("==", .eq), ("!=", .ne), ("<", .lt),
    ("<=", .le), (">", .gt), (">=", .ge)]

/-- The other tests. -/
def others : List String := [ "even", "odd", "divisibleby", "in", "sameas", "lower", "upper"]

/-- The tests there are. -/
def names : List String := kinds.map Prod.fst ++ comparisons.map Prod.fst ++ others

/-- Whether a comparison of two values holds. -/
def holds (c : Comparison) (a b : Value) : Attempt Bool := do
  match c with
  | .eq => return a.same b
  | .ne => return !a.same b
  | .lt => Value.less a b
  | .gt => Value.less b a
  | .le => do
    match ← Value.compare a b with
    | some .lt => return true
    | some .eq => return true
    | _ => return false
  | .ge => do
    match ← Value.compare a b with
    | some .gt => return true
    | some .eq => return true
    | _ => return false
  | .isIn => Value.contains b a
  | .notIn => do return !(← Value.contains b a)

/-- Whether a value leaves a given remainder. -/
def leaves (remainder : Int) (v by_ : Value) : Attempt Bool := do
  return (← Value.mod v by_).same (.int remainder)

/-- Whether two values are of one kind and equal. -/
def identical (a b : Value) : Bool := a.kindWord == b.kindWord && a.same b

/-- Asks one of the other questions. -/
def askOther (name : String) (v : Value) (a : Arguments) : Attempt Bool := do
  let one (param : String) : Attempt Value := do
    return ((← a.bind [param] 1).getD 0 none).getD .null
  let bare : Attempt Unit := do
    let _ ← a.plain 0 0
  match name with
  | "even" => do
    bare
    leaves 0 v (.int 2)
  | "odd" => do
    bare
    leaves 1 v (.int 2)
  | "divisibleby" => leaves 0 v (← one "num")
  | "in" => Value.contains (← one "seq") v
  | "sameas" => return identical v (← one "other")
  | "lower" => do
    bare
    return match TextMethod.call "islower" v.text Arguments.empty with
      | .ok r => r.truthy
      | .error _ => false
  | "upper" => do
    bare
    return match TextMethod.call "isupper" v.text Arguments.empty with
      | .ok r => r.truthy
      | .error _ => false
  | _ => if a.named.isEmpty then throw .templateRuntime else throw .wrongType

/-- Asks a question about a value. -/
def ask (name : String) (v : Value) (a : Arguments) : Attempt Bool := do
  match kinds.lookup name with
  | some p =>
    let _ ← a.plain 0 0
    return p v
  | none =>
    match comparisons.lookup name with
    | some c => holds c v ((← a.plain 1 1).headD .null)
    | none => askOther name v a

theorem ask_defined (v : Value) (h : v ≠ .undefined) :
    ask "defined" v Arguments.empty = .ok true := by
  cases v with
  | undefined => exact absurd rfl h
  | _ => rfl

end SlidePress.Template.Test
