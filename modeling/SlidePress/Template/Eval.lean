import SlidePress.Template.Filter
import SlidePress.Template.Parser

/-! # Running templates

Expressions and statements run by recursion on their own structure. Only a call of a procedure
leaves the text at hand; it goes through `Env.invoke`, and `invokeAt` ties the knot for a bounded
depth of calls.

* `Expr.eval`: the value of an expression.
* `Stmt.run`: the text a statement prints.
* `render`: the text of a template. -/

namespace SlidePress.Template

/-- What a template runs in: the dialect, the helper objects, and the calls of procedures. -/
structure Env (σ : Type) where
  dialect : Dialect
  host : Host σ
  invoke : Nat → Arguments → Run σ Value

variable {σ : Type}

/-! ### Calls -/

/-- The entries that a function of named arguments takes from a mapping or from pairs. -/
def entriesFrom (v : Value) : Run σ Entries := do
  match v with
  | .map es => return es
  | v =>
    let ps ← (← Run.iterate v).mapM fun p => do
      match ← Run.iterate p with
      | [k, x] => if k.hashable then return (k, x) else throw .wrongType
      | _ => throw .badValue
    return Entries.ofPairs ps

/-- The entries of the arguments of a function that builds a mapping. -/
def entriesOfCall (a : Arguments) : Run σ Entries := do
  let base ← match a.positional with
    | [] => pure []
    | [v] => entriesFrom v
    | _ => throw .wrongType
  return Entries.update base (Entries.ofNames a.named)

/-- The integers that a call asks for. -/
def rangeOf (a : Arguments) : Attempt Value := do
  match ← (← a.plain 1 3).mapM TextMethod.whole with
  | [stop] => return .range 0 stop 1
  | [start, stop] => return .range start stop 1
  | [start, stop, step] => if step = 0 then throw .badValue else return .range start stop step
  | _ => throw .wrongType

/-- The functions that every template can call. -/
def builtins : List String := [ "range", "dict", "namespace"]

/-- Calls a function that every template can call. -/
def callBuiltin (name : String) (a : Arguments) : Run σ Value := do
  match name with
  | "range" => Run.ofAttempt (rangeOf a)
  | "dict" => return .map (← entriesOfCall a)
  | "namespace" => Run.newRecord (← entriesOfCall a)
  | _ => throw .wrongType

/-- Calls a value. -/
def Env.call (env : Env σ) (f : Value) (a : Arguments) : Run σ Value := do
  match f with
  | .method v name => callOperation env.host v name a
  | .ref (.builtin name) => callBuiltin name a
  | .ref (.procedure id) => env.invoke id a
  | .ref (.loop id) =>
    match ((← get).loops.getD id default).again with
    | some p => env.invoke p a
    | none => throw .wrongType
  | .undefined => throw .undefinedValue
  | _ => throw .wrongType

/-! ### Expressions -/

/-- Applies an operator. -/
def BinaryOp.apply : BinaryOp → Value → Value → Attempt Value
  | add => Value.add
  | sub => Value.sub
  | mul => Value.mul
  | div => Value.div
  | floorDiv => Value.floorDiv
  | mod => Value.mod
  | pow => Value.pow

namespace Expr

mutual

/-- The value of an expression. -/
def eval (env : Env σ) : Expr → Run σ Value
  | const v => return v
  | name s => Run.valueOf s
  | list es => do return .list (← evalAll env es)
  | tuple es => do return .tuple (← evalAll env es)
  | dict es => do
    let ps ← evalPairs env es
    if ps.all fun p => p.1.hashable then return .map (Entries.ofPairs ps) else throw .wrongType
  | attr e n => do namedPart env.dialect env.host (← eval env e) n
  | item e i => do
    let v ← eval env e
    itemPart env.dialect env.host v (← eval env i)
  | slice e a b c => do
    let v ← eval env e
    let a ← eval env a
    let b ← eval env b
    let c ← eval env c
    Run.ofAttempt (stretchOf env.dialect v a b c)
  | call f args => do
    let f ← eval env f
    env.call f (← evalArgs env args)
  | filter e n args => do
    let v ← eval env e
    Filter.apply env.dialect env.host n v (← evalArgs env args)
  | test e n args => do
    let v ← eval env e
    let a ← evalArgs env args
    return .bool (← Run.ofAttempt (Test.ask n v a))
  | negate e => do return .bool !(← eval env e).truthy
  | both a b => do
    let v ← eval env a
    if v.truthy then eval env b else return v
  | either a b => do
    let v ← eval env a
    if v.truthy then return v else eval env b
  | choose c a b => do
    if (← eval env c).truthy then eval env a else eval env b
  | compare e ops => do evalChain env (← eval env e) ops
  | binary op a b => do
    let x ← eval env a
    let y ← eval env b
    Run.ofAttempt (op.apply x y)
  | minus e => do Run.ofAttempt (Value.negated (← eval env e))
  | plus e => do Run.ofAttempt (Value.unchanged (← eval env e))
  | concat es => do return .str (String.join ((← evalAll env es).map Value.text))
termination_by structural e => e

/-- The values of several expressions. -/
def evalAll (env : Env σ) : List Expr → Run σ (List Value)
  | [] => return []
  | e :: es => do
    let v ← eval env e
    return v :: (← evalAll env es)
termination_by structural es => es

/-- The values of pairs of expressions. -/
def evalPairs (env : Env σ) : List (Expr × Expr) → Run σ (List (Value × Value))
  | [] => return []
  | (k, e) :: es => do
    let k ← eval env k
    let v ← eval env e
    return (k, v) :: (← evalPairs env es)
termination_by structural es => es

/-- The arguments of a call. -/
def evalArgs (env : Env σ) : List (Role × Expr) → Run σ Arguments
  | [] => return Arguments.empty
  | (role, e) :: es => do
    let v ← eval env e
    let more ← match role with
      | .positional => pure ⟨[v], []⟩
      | .named n => pure ⟨[], [(n, v)]⟩
      | .spread => do pure ⟨← Run.iterate v, []⟩
      | .spreadNamed =>
        match v with
        | .map es =>
          if es.all fun e => e.1.isText then
            pure (Arguments.mk [] (es.map fun e => (e.1.text, e.2)))
          else throw .wrongType
        | _ => throw .wrongType
    let a ← evalArgs env es
    return ⟨more.positional ++ a.positional, more.named ++ a.named⟩
termination_by structural es => es

/-- Whether every comparison of a chain holds. -/
def evalChain (env : Env σ) (v : Value) : List (Comparison × Expr) → Run σ Value
  | [] => return .bool true
  | (c, e) :: ops => do
    let w ← eval env e
    if ← Run.ofAttempt (Test.holds c v w) then evalChain env w ops else return .bool false
termination_by structural ops => ops

end

end Expr

/-! ### Assignments -/

/-- Assignments to fields are for records only. -/
def Target.check : Target → Run σ Unit
  | field r _ => do
    match ← Run.valueOf r with
    | .ref (.record _) => return ()
    | _ => throw .templateRuntime
  | _ => return ()

namespace Target

mutual

/-- Gives a value to a target; a tuple takes as many items as it has parts. -/
def bind : Target → Value → Run σ Unit
  | name s, v => Run.assign s v
  | tuple ts, v => do bindAll ts (← Run.iterate v)
  | field r f, v => do
    match ← Run.valueOf r with
    | .ref (.record id) =>
      modify fun s =>
        { s with records := s.records.set id (Entries.insert (s.records.getD id []) (.str f) v) }
    | _ => throw .templateRuntime
termination_by structural t => t

/-- Gives values to several targets. -/
def bindAll : List Target → List Value → Run σ Unit
  | [], [] => return ()
  | t :: ts, v :: vs => do
    bind t v
    bindAll ts vs
  | _, _ => throw .badValue
termination_by structural ts => ts

end

end Target

/-! ### Statements -/

/-- The text that a value prints as. -/
def shown (d : Dialect) (v : Value) : Run σ String := do
  match v with
  | .null => return if d.nullIsBlank then "" else v.text
  | .ref (.loop id) =>
    let l := (← get).loops.getD id default
    return "<LoopContext " ++ toString (l.position + 1) ++ "/" ++ toString l.items.length ++ ">"
  | .ref (.record id) =>
    return "<Namespace " ++ (Value.map ((← get).records.getD id [])).literal ++ ">"
  | v => return v.text

/-- Sends a value through filters, one after the other. -/
def Env.filterBy (env : Env σ) (v : Value) (filters : List Filtering) : Run σ Value :=
  filters.foldlM (fun v f => do
    Filter.apply env.dialect env.host f.1 v (← Expr.evalArgs env f.2)) v

/-- What an item gives after another, joined, and whether there was any. -/
def joinEach (f : Nat → Value → Run σ (Option String)) : Nat → List Value → Run σ (String × Bool)
  | _, [] => return ("", false)
  | i, x :: xs => do
    let here ← f i x
    let (rest, any) ← joinEach f (i + 1) xs
    match here with
    | some s => return (s ++ rest, true)
    | none => return (rest, any)

/-- The items that pass the test of a loop. -/
def passing (env : Env σ) (target : Target) (test : Expr) : List Value → Run σ (List Value)
  | [] => return []
  | x :: xs => do
    let passed ← Run.inScope [] do
      target.bind x
      return (← Expr.eval env test).truthy
    let rest ← passing env target test xs
    return if passed then x :: rest else rest

/-- A text that is printed as it is. -/
def verbatim (v : Value) : Attempt String := Attempt.ofOption .wrongType v.text?

namespace Stmt

mutual

/-- The text a statement prints. -/
def run (env : Env σ) : Stmt → Run σ String
  | text s => return s
  | output e => do shown env.dialect (← e.eval env)
  | branch arms otherwise => do
    match ← runArms env arms with
    | some s => return s
    | none => runAll env otherwise
  | each target source test depth body otherwise => do
    let items ← Run.iterate (← source.eval env)
    let (s, any) ←
      if bodyMentions "loop" body || depth.isSome then do
        let items ← match test with
          | some e => passing env target e items
          | none => pure items
        let again ← match depth with
          | some k => some <$> Run.newProcedure (.loop target test (k + 1) body otherwise)
          | none => pure none
        let id ← Run.newLoop ⟨items, 0, depth.getD 0, none, again⟩
        joinEach (fun i x => Run.inScope [("loop", .ref (.loop id))] do
          let l := (← get).loops.getD id default
          Run.setLoop id { l with position := i }
          target.bind x
          return some (← runAll env body)) 0 items
      else
        joinEach (fun _ x => Run.inScope [] do
          target.bind x
          let passed ← match test with
            | some e => pure (← e.eval env).truthy
            | none => pure true
          if passed then return some (← runAll env body) else return none) 0 items
    if any then return s else Run.inScope [] (runAll env otherwise)
  | assign target e => do
    target.check
    target.bind (← e.eval env)
    return ""
  | assignText target filters body => do
    let s ← Run.inScope [] (runAll env body)
    target.bind (← env.filterBy (.str s) filters)
    return ""
  | within bindings body => do
    let vs ← bindings.mapM fun b => b.2.eval env
    Run.inScope [] do
      Target.bindAll (bindings.map Prod.fst) vs
      runAll env body
  | filtered filters body => do
    let s ← Run.inScope [] (runAll env body)
    Run.ofAttempt (verbatim (← env.filterBy (.str s) filters))
  | procedure name params body => do
    let id ← Run.newProcedure (.body name params body)
    Run.assign name (.ref (.procedure id))
    return ""
  | callWith params f args body => do
    let id ← Run.newProcedure (.body "caller" params body)
    let f ← f.eval env
    let a ← Expr.evalArgs env args
    let v ← env.call f { a with named := a.named ++ [("caller", .ref (.procedure id))] }
    Run.ofAttempt (verbatim v)
  | elsewhere => throw .wrongType
termination_by structural s => s

/-- The text that statements print one after the other. -/
def runAll (env : Env σ) : List Stmt → Run σ String
  | [] => return ""
  | s :: ss => do
    let here ← run env s
    return here ++ (← runAll env ss)
termination_by structural ss => ss

/-- The text of the first arm whose condition holds. -/
def runArms (env : Env σ) : List (Expr × List Stmt) → Run σ (Option String)
  | [] => return none
  | (c, body) :: arms => do
    if (← c.eval env).truthy then return some (← runAll env body) else runArms env arms
termination_by structural arms => arms

end

end Stmt

/-! ### Procedures -/

/-- The arguments of a procedure beside its parameters: those left over, where the statements ask
for them, and none elsewhere. -/
def leftOver (params : List String) (stmts : List Stmt) (a : Arguments) : Attempt Scope := do
  let asks (x : String) : Bool := Stmt.bodyMentions x stmts && !params.contains x
  let open_ := params.drop a.positional.length
  let named := a.named.filter fun p => !open_.contains p.1
  let (callers, others) := named.partition fun p => asks "caller" && p.1 == "caller"
  let extra := a.positional.drop params.length
  if !asks "kwargs" && !others.isEmpty then throw .wrongType
  else if !asks "varargs" && !extra.isEmpty then throw .wrongType
  else
    return (if asks "caller" then [("caller", (callers.lookup "caller").getD .undefined)] else []) ++
      (if asks "kwargs" then [("kwargs", .map (Entries.ofNames others))] else []) ++
      (if asks "varargs" then [("varargs", .tuple extra)] else [])

/-- Gives the parameters of a procedure their values, or their defaults. -/
def bindParams (env : Env σ) (a : Arguments) : Nat → List (String × Option Expr) → Run σ Unit
  | _, [] => return ()
  | i, (name, default) :: params => do
    let passed := match a.positional[i]? with
      | some v => some v
      | none => a.named.lookup name
    let v ← match passed, default with
      | some v, _ => pure v
      | none, some e => e.eval env
      | none, none => pure .undefined
    Run.assign name v
    bindParams env a (i + 1) params

/-- What a procedure gives for some arguments. -/
def Procedure.run (env : Env σ) (p : Procedure) (a : Arguments) : Run σ Value := do
  match p.action with
  | .body _ params stmts =>
    let rest ← Run.ofAttempt (leftOver (params.map Prod.fst) stmts a)
    Run.onTopOf p.scopes rest do
      bindParams env a 0 params
      return .str (← Stmt.runAll env stmts)
  | .loop target test depth stmts otherwise =>
    let vs ← Run.ofAttempt (a.bind [ "iterable"] 1)
    let items ← Run.iterate ((vs.getD 0 none).getD .null)
    Run.onTopOf p.scopes [] do
      return .str (← Stmt.run env
        (.each target (.const (.list items)) test (some depth) stmts otherwise))

/-- Calls a procedure by its number, with calls inside it of at most the given depth. -/
def invokeAt (d : Dialect) (host : Host σ) : Nat → Nat → Arguments → Run σ Value
  | 0, _, _ => throw .tooDeep
  | n + 1, id, a => do
    match (← get).procedures[id]? with
    | some p => p.run ⟨d, host, invokeAt d host n⟩ a
    | none => throw .wrongType

/-- How deeply procedures may call each other. -/
def callLimit : Nat := 240

/-- What a template runs in. -/
def Env.of (d : Dialect) (host : Host σ) : Env σ := ⟨d, host, invokeAt d host callLimit⟩

/-! ### Templates -/

/-- The filters and tests that templates know. -/
def known : Known := ⟨Filter.names, Test.names⟩

/-- The functions that every template can call, as variables. -/
def globals : Scope := builtins.map fun n => (n, .ref (.builtin n))

/-- The text of statements, and the state of the caller afterwards. -/
def runTemplate (d : Dialect) (host : Host σ) (scope : Scope) (state : σ) (ss : List Stmt) :
    Attempt (String × σ) := do
  let (s, store) ← Stmt.runAll (Env.of d host) ss (Store.start (scope ++ globals) state)
  return (s, store.host)

/-- The text of a template with some variables, and the state of the caller afterwards. -/
def renderWith (d : Dialect) (host : Host σ) (scope : Scope) (state : σ) (s : String) :
    Attempt (String × σ) := do
  runTemplate d host scope state (← parse known d s)

/-- A caller without helper objects. -/
def Host.none : Host Unit := ⟨fun _ => [], fun _ _ _ _ => .error .wrongType⟩

/-- The text of a template with some variables and no helper objects. -/
def render (d : Dialect) (scope : Scope) (s : String) : Attempt String := do
  return (← renderWith d Host.none scope () s).1

/-- Plain statements print themselves. -/
theorem run_text (env : Env σ) (s : String) (store : Store σ) :
    Stmt.run env (.text s) store = .ok (s, store) := rfl

end SlidePress.Template
