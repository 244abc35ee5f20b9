import SlidePress.Template.Token

/-! # Reading expressions of templates

An expression is read level by level, from the inline choice that binds loosest to names, calls and
filters. Every level is given the reader of whole expressions for what stands in brackets;
`Read.exprAt` ties the knot, each pair of brackets one step deeper.

* `Read.expr`: an expression.
* `Read.target`, `Read.params`, `Read.filterings`: the parts of the heads of statements. -/

namespace SlidePress.Template

namespace Token

/-- Whether a token is a given sign. -/
def isSign (s : String) : Token → Bool
  | sign t => t == s
  | _ => false

/-- Whether a token is a given word. -/
def isWord (s : String) : Token → Bool
  | name t => t == s
  | _ => false

end Token

/-- Reading the tokens of one statement or expression. -/
abbrev Read (α : Type) := StateT (List Token) (Except Fault) α

namespace Read

/-- What is read is not well formed. -/
def fail {α : Type} : Read α := throw .templateSyntax

/-- The next token. -/
def peek? : Read (Option Token) := do return (← get).head?

/-- Goes over the next token. -/
def drop : Read Unit := modify List.tail

/-- Whether the next token satisfies `p`. -/
def nextIs (p : Token → Bool) : Read Bool := do return (← peek?).any p

/-- Goes over the next token if it satisfies `p`. -/
def acceptIf (p : Token → Bool) : Read Bool := do
  if ← nextIs p then drop; return true else return false

/-- Goes over a sign, if it comes next. -/
def accept (s : String) : Read Bool := acceptIf (Token.isSign s)

/-- Goes over a word, if it comes next. -/
def acceptWord (s : String) : Read Bool := acceptIf (Token.isWord s)

/-- Goes over a sign. -/
def expect (s : String) : Read Unit := do
  if ← accept s then return () else fail

/-- Goes over a word. -/
def expectWord (s : String) : Read Unit := do
  if ← acceptWord s then return () else fail

/-- The next token, a name. -/
def takeName : Read String := do
  match ← peek? with
  | some (.name s) => drop; return s
  | _ => fail

/-- How many tokens are left. -/
def left : Read Nat := do return (← get).length

/-! ### Sequences -/

/-- Operands with operators between them, grouped from the left. -/
def chainFrom (op? : Token → Option (Expr → Expr → Expr)) (operand : Read Expr) :
    Nat → Expr → Read Expr
  | 0, a => return a
  | n + 1, a => do
    match (← peek?).bind op? with
    | some op =>
      drop
      chainFrom op? operand n (op a (← operand))
    | none => return a

/-- Operands with operators between them, grouped from the left. -/
def chain (op? : Token → Option (Expr → Expr → Expr)) (operand : Read Expr) : Read Expr := do
  let a ← operand
  chainFrom op? operand (← left) a

/-- The items of a tuple, and whether a comma makes it one. -/
def tupleItems (item : Read Expr) (ended : Read Bool) : Nat → Read (List Expr × Bool)
  | 0 => fail
  | n + 1 => do
    if ← ended then return ([], false)
    else
      let e ← item
      if ← accept "," then
        let (es, _) ← tupleItems item ended n
        return (e :: es, true)
      else return ([e], false)

/-- An item, or a tuple of items. -/
def tuple (item : Read Expr) (ended : Read Bool) (bracketed : Bool) : Read Expr := do
  let n ← left
  match ← tupleItems item ended (n + 1) with
  | (es, true) => return .tuple es
  | ([e], false) => return e
  | _ => if bracketed then return .tuple [] else fail

/-- Whether a tuple ends here: at the end, at a closing bracket, or at one of some words. -/
def tupleEnd (words : List String) : Read Bool := do
  match ← peek? with
  | none => return true
  | some t => return t.isSign ")" || words.any fun w => t.isWord w

/-- Items with commas between them up to a closing bracket; a comma may follow the last one. -/
def itemsTo {α : Type} (close : String) (item : Read α) : Nat → Read (List α)
  | 0 => fail
  | n + 1 => do
    if ← accept close then return []
    else
      let a ← item
      if ← accept "," then return a :: (← itemsTo close item n)
      else
        expect close
        return [a]

/-! ### Expressions -/

/-- The words that are constants. -/
def constants : List (String × Value) :=
  [("true", .bool true), ("True", .bool true), ("false", .bool false), ("False", .bool false),
    ("none", .null), ("None", .null)]

/-- Texts that follow each other are one text. -/
def texts : Nat → Read String
  | 0 => return ""
  | n + 1 => do
    match ← peek? with
    | some (.text s) =>
      drop
      return s ++ (← texts n)
    | _ => return ""

/-- A name, a constant or something in brackets; `expr` reads what is in them. -/
def primary (expr : Read Expr) : Read Expr := do
  let n ← left
  match ← peek? with
  | some (.name s) => do
    drop
    match constants.lookup s with
    | some v => return .const v
    | none => return .name s
  | some (.text _) => return .const (.str (← texts n))
  | some (.int i) => do
    drop
    return .const (.int i)
  | some (.float x) => do
    drop
    return .const (.float x)
  | some (.sign "(") => do
    drop
    let e ← tuple expr (tupleEnd []) true
    expect ")"
    return e
  | some (.sign "[") => do
    drop
    return .list (← itemsTo "]" expr n)
  | some (.sign "\x7b") => do
    drop
    let pair : Read (Expr × Expr) := do
      let k ← expr
      expect ":"
      return (k, ← expr)
    return .dict (← itemsTo "\x7d" pair n)
  | _ => fail

/-- One argument of a call. -/
def argument (expr : Read Expr) : Read (Role × Expr) := do
  if ← accept "*" then return (.spread, ← expr)
  else if ← accept "**" then return (.spreadNamed, ← expr)
  else
    match ← get with
    | .name s :: .sign "=" :: rest => do
      set rest
      return (.named s, ← expr)
    | _ => return (.positional, ← expr)

/-- Whether arguments come in a lawful order: positional ones first, then at most one sequence,
then at most one mapping, with named ones not behind the mapping. -/
def lawful (plain spread spreadNamed : Bool) : List (Role × Expr) → Bool
  | [] => true
  | (.positional, _) :: r => plain && !spread && !spreadNamed && lawful plain spread spreadNamed r
  | (.named _, _) :: r => !spreadNamed && lawful false spread spreadNamed r
  | (.spread, _) :: r => !spread && !spreadNamed && lawful plain true spreadNamed r
  | (.spreadNamed, _) :: r => !spreadNamed && lawful plain spread true r

/-- The arguments of a call behind the opening bracket. -/
def arguments (expr : Read Expr) : Read (List (Role × Expr)) := do
  let args ← itemsTo ")" (argument expr) (← left)
  if lawful true false false args then return args else fail

/-- A part of a slice that may be left out. -/
def bound (expr : Read Expr) : Read Expr := do
  match ← peek? with
  | some t =>
    if t.isSign ":" || t.isSign "]" || t.isSign "," then return .const .null else expr
  | none => expr

/-- What stands in the brackets behind a value: the rest of the expression about that value. -/
def subscript (expr : Read Expr) : Read (Expr → Expr) := do
  let atColon ← nextIs (Token.isSign ":")
  let first ← bound expr
  if ← accept ":" then
    let stop ← bound expr
    let step ← if ← accept ":" then bound expr else pure (.const .null)
    return fun e => .slice e first stop step
  else if atColon then fail
  else return fun e => .item e first

/-- The parts and calls behind a value. -/
def trailers (expr : Read Expr) : Nat → Expr → Read Expr
  | 0, e => return e
  | n + 1, e => do
    if ← accept "." then
      match ← peek? with
      | some (.name s) =>
        drop
        trailers expr n (.attr e s)
      | some (.int i) =>
        drop
        trailers expr n (.item e (.const (.int i)))
      | _ => fail
    else if ← accept "[" then
      if ← accept "]" then trailers expr n (.item e (.tuple []))
      else
        let part ← subscript expr
        if ← accept "," then
          let more ← itemsTo "]" expr n
          match part e with
          | .item _ i => trailers expr n (.item e (.tuple (i :: more)))
          | _ => fail
        else
          expect "]"
          trailers expr n (part e)
    else if ← accept "(" then
      let args ← arguments expr
      trailers expr n (.call e args)
    else return e

/-- A name with points in it. -/
def dottedFrom : Nat → String → Read String
  | 0, s => return s
  | n + 1, s => do
    if ← accept "." then
      let t ← takeName
      dottedFrom n (s ++ "." ++ t)
    else return s

/-- A name with points in it. -/
def dotted : Read String := do
  let s ← takeName
  dottedFrom (← left) s

/-- A filter with its arguments, behind the bar. -/
def filtering (expr : Read Expr) : Read Filtering := do
  let name ← dotted
  if ← accept "(" then return (name, ← arguments expr) else return (name, [])

/-- Whether a token can begin the only argument of a test. -/
def beginsArgument : Token → Bool
  | .name s => s != "else" && s != "or" && s != "and"
  | .sign s => s == "(" || s == "[" || s == "\x7b"
  | _ => true

/-- A test of a value, behind the word for it. -/
def testOf (expr : Read Expr) (e : Expr) : Read Expr := do
  let negated ← acceptWord "not"
  let name ← dotted
  let args ← if ← accept "(" then arguments expr
    else if ← nextIs beginsArgument then
      if ← nextIs (Token.isWord "is") then fail
      else
        let a ← primary expr
        let a ← trailers expr (← left) a
        pure [(Role.positional, a)]
    else pure []
  let t := Expr.test e name args
  return if negated then .negate t else t

/-- The filters, tests and calls behind a value. -/
def filters (expr : Read Expr) : Nat → Expr → Read Expr
  | 0, e => return e
  | n + 1, e => do
    if ← accept "|" then
      let (name, args) ← filtering expr
      filters expr n (.filter e name args)
    else if ← acceptWord "is" then
      let t ← testOf expr e
      filters expr n t
    else if ← accept "(" then
      let args ← arguments expr
      filters expr n (.call e args)
    else return e

/-- A sign, as what it does to a value. -/
def sign? : Read (Option (Expr → Expr)) := do
  if ← accept "-" then return some Expr.minus
  else if ← accept "+" then return some Expr.plus
  else return none

/-- A value with its sign. -/
def signed (expr : Read Expr) : Nat → Bool → Read Expr
  | 0, _ => fail
  | n + 1, outermost => do
    let e ← match ← sign? with
      | some op => op <$> signed expr n false
      | none => primary expr
    let e ← trailers expr (← left) e
    if outermost then filters expr (← left) e else return e

/-- The operator of a token among some. -/
def operator (ops : List (String × BinaryOp)) : Token → Option (Expr → Expr → Expr)
  | .sign s => (ops.lookup s).map Expr.binary
  | _ => none

/-- A product of powers. -/
def product (expr : Read Expr) : Read Expr :=
  chain (operator [("*", .mul), ("/", .div), ("//", .floorDiv), ("%", .mod)]) do
    chain (operator [("**", .pow)]) do signed expr ((← left) + 1) true

/-- Products whose texts are joined. -/
def joined (expr : Read Expr) : Nat → Read (List Expr)
  | 0 => fail
  | n + 1 => do
    let e ← product expr
    if ← accept "~" then return e :: (← joined expr n) else return [e]

/-- A sum. -/
def sum (expr : Read Expr) : Read Expr :=
  chain (operator [("+", .add), ("-", .sub)]) do
    match ← joined expr ((← left) + 1) with
    | [e] => return e
    | es => return .concat es

/-- The comparisons written as signs. -/
def comparisons : List (String × Comparison) :=
  [("==", .eq), ("!=", .ne), ("<", .lt), ("<=", .le), (">", .gt), (">=", .ge)]

/-- The comparison that comes next, gone over. -/
def comparison? : Read (Option Comparison) := do
  match ← get with
  | .sign s :: rest =>
    match comparisons.lookup s with
    | some c => do
      set rest
      return some c
    | none => return none
  | .name "in" :: rest => do
    set rest
    return some .isIn
  | .name "not" :: .name "in" :: rest => do
    set rest
    return some .notIn
  | _ => return none

/-- Comparisons behind a value. -/
def comparedWith (expr : Read Expr) : Nat → Read (List (Comparison × Expr))
  | 0 => return []
  | n + 1 => do
    match ← comparison? with
    | some c => do
      let e ← sum expr
      return (c, e) :: (← comparedWith expr n)
    | none => return []

/-- A chain of comparisons, possibly negated. -/
def comparing (expr : Read Expr) : Nat → Read Expr
  | 0 => fail
  | n + 1 => do
    if ← acceptWord "not" then return .negate (← comparing expr n)
    else
      let e ← sum expr
      match ← comparedWith expr (← left) with
      | [] => return e
      | ops => return .compare e ops

/-- The operator of a word. -/
def connective (word : String) (op : Expr → Expr → Expr) (t : Token) :
    Option (Expr → Expr → Expr) :=
  if t.isWord word then some op else none

/-- An alternative of conjunctions. -/
def alternative (expr : Read Expr) : Read Expr :=
  chain (connective "or" .either) do
    chain (connective "and" .both) do comparing expr ((← left) + 1)

/-- An alternative, with the inline choices behind it. -/
def conditional (expr : Read Expr) : Nat → Option Expr → Read Expr
  | 0, _ => fail
  | n + 1, begun => do
    let a ← match begun with
      | some a => pure a
      | none => alternative expr
    if ← acceptWord "if" then
      let c ← alternative expr
      let b ← if ← acceptWord "else" then conditional expr n none else pure (.const .undefined)
      conditional expr n (some (.choose c a b))
    else return a

/-- An expression in brackets of at most the given depth. -/
def exprAt : Nat → Read Expr
  | 0 => fail
  | n + 1 => do conditional (exprAt n) ((← left) + 1) none

/-- An expression. -/
def expr : Read Expr := do exprAt ((← left) + 1)

/-- An expression without an inline choice at its top. -/
def plainExpr : Read Expr := do
  let n ← left
  alternative (exprAt n)

/-- An expression, or several with commas between them. -/
def exprs : Read Expr := tuple expr (tupleEnd []) false

/-! ### Heads of statements -/

mutual

/-- The target that an expression names. -/
def targetOf? : Expr → Option Target
  | .name s => some (.name s)
  | .tuple es => (targetsOf? es).map .tuple
  | _ => none
termination_by structural e => e

/-- The targets that expressions name. -/
def targetsOf? : List Expr → Option (List Target)
  | [] => some []
  | e :: es =>
    match targetOf? e, targetsOf? es with
    | some t, some ts => some (t :: ts)
    | _, _ => none
termination_by structural es => es

end

/-- What an assignment gives a value to. -/
def target (words : List String) : Read Target := do
  let n ← left
  let e ← tuple (primary (exprAt n)) (tupleEnd words) false
  match targetOf? e with
  | some t => return t
  | none => fail

/-- A target, or a field of a record. -/
def assigned : Read Target := do
  match ← get with
  | .name r :: .sign "." :: .name f :: rest => do
    set rest
    return .field r f
  | _ :: .sign "." :: _ => fail
  | _ => target []

/-- Nothing is left; a colon may stand before the end. -/
def headEnd : Read Unit := do
  let _ ← accept ":"
  match ← peek? with
  | none => return ()
  | some _ => fail

/-- Parameters with their defaults; behind one with a default all have one. -/
def params : Nat → Bool → Read (List (String × Option Expr))
  | 0, _ => fail
  | n + 1, defaults => do
    if ← accept ")" then return []
    else
      let name ← takeName
      if (constants.lookup name).isSome then fail
      else
        let default ← if ← accept "=" then some <$> expr else pure none
        if defaults && default.isNone then fail
        else if ← accept "," then
          if ← nextIs (Token.isSign ")") then fail
          else return (name, default) :: (← params n (defaults || default.isSome))
        else
          expect ")"
          return [(name, default)]

/-- The filters behind the first bar. -/
def filterings : Nat → Read (List Filtering)
  | 0 => return []
  | n + 1 => do
    if ← accept "|" then
      let f ← filtering expr
      return f :: (← filterings n)
    else return []

/-- Targets with their values. -/
def bindings : Nat → Read (List (Target × Expr))
  | 0 => fail
  | n + 1 => do
    match ← peek? with
    | none => return []
    | some t =>
      if t.isSign ":" then return []
      else
        let t ← target []
        expect "="
        let e ← expr
        if ← accept "," then
          match ← bindings n with
          | [] => fail
          | more => return (t, e) :: more
        else return [(t, e)]

/-- Runs a reading on the tokens of a statement, which it has to use up. -/
def all {α : Type} (r : Read α) (ts : List Token) : Attempt α := do
  match ← r.run ts with
  | (a, []) => return a
  | _ => throw .templateSyntax

end Read

end SlidePress.Template
