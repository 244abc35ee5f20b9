import SlidePress.Value.Basic

/-! # Templates

A template is text with expressions and statements in it. The expressions are printed; the
statements choose, repeat and name parts of the text. Both are plain trees here: `Expr` and `Stmt`.

* `Dialect`: the choices in which two template languages differ.
* `Expr.mentions`, `Stmt.mentions`: whether a variable occurs. -/

namespace SlidePress.Template

/-- The choices in which template languages differ. -/
structure Dialect where
  /-- A line feed right behind a statement belongs to the statement. -/
  trimBlocks : Bool
  /-- Blanks between the beginning of a line and a statement belong to the statement. -/
  stripBlocks : Bool
  /-- A part of an undefined value is undefined as well. -/
  chained : Bool
  /-- The parts of a mapping that can be named are its keys. -/
  keysOnly : Bool
  /-- Null prints as nothing, and defaults replace it. -/
  nullIsBlank : Bool
  deriving DecidableEq, Repr

namespace Dialect

/-- The language of slide templates. -/
def slide : Dialect := ⟨true, true, true, true, true⟩

/-- The language of short markup templates. -/
def markup : Dialect := ⟨false, false, false, false, false⟩

end Dialect

/-- The operators between two numbers or sequences. -/
inductive BinaryOp where
  | add
  | sub
  | mul
  | div
  | floorDiv
  | mod
  | pow
  deriving DecidableEq, Repr, Inhabited

/-- The comparisons of two values. -/
inductive Comparison where
  | eq
  | ne
  | lt
  | le
  | gt
  | ge
  | isIn
  | notIn
  deriving DecidableEq, Repr, Inhabited

/-- How an argument is passed. -/
inductive Role where
  | positional
  | named (name : String)
  /-- A sequence of positional arguments. -/
  | spread
  /-- A mapping of named arguments. -/
  | spreadNamed
  deriving DecidableEq, Repr, Inhabited

/-- An expression. -/
inductive Expr where
  | const (v : Value)
  | name (s : String)
  | list (xs : List Expr)
  | tuple (xs : List Expr)
  | dict (es : List (Expr × Expr))
  /-- The part of a value with a name. -/
  | attr (e : Expr) (name : String)
  /-- The part of a value at a position or key. -/
  | item (e i : Expr)
  | slice (e start stop step : Expr)
  | call (f : Expr) (args : List (Role × Expr))
  | filter (e : Expr) (name : String) (args : List (Role × Expr))
  | test (e : Expr) (name : String) (args : List (Role × Expr))
  | negate (e : Expr)
  | both (a b : Expr)
  | either (a b : Expr)
  /-- `a` if `condition` holds, otherwise `b`. -/
  | choose (condition a b : Expr)
  /-- A chain of comparisons. -/
  | compare (e : Expr) (ops : List (Comparison × Expr))
  | binary (op : BinaryOp) (a b : Expr)
  | minus (e : Expr)
  | plus (e : Expr)
  /-- The texts of values, one after the other. -/
  | concat (xs : List Expr)
  deriving Inhabited

/-- What an assignment gives a value to. -/
inductive Target where
  | name (s : String)
  | tuple (ts : List Target)
  /-- A field of a record. -/
  | field (record field : String)
  deriving Inhabited

/-- A filter with its arguments. -/
abbrev Filtering := String × List (Role × Expr)

/-- A statement. -/
inductive Stmt where
  | text (s : String)
  | output (e : Expr)
  /-- The first arm whose condition holds. -/
  | branch (arms : List (Expr × List Stmt)) (otherwise : List Stmt)
  /-- A loop; with a test only the items that pass it count. A loop that can run itself again on
  other items says how deeply it is nested in itself. -/
  | each (target : Target) (source : Expr) (test : Option Expr) (depth : Option Nat)
      (body otherwise : List Stmt)
  | assign (target : Target) (e : Expr)
  /-- The text that `body` gives, filtered. -/
  | assignText (target : Target) (filters : List Filtering) (body : List Stmt)
  /-- A scope of its own. -/
  | within (bindings : List (Target × Expr)) (body : List Stmt)
  | filtered (filters : List Filtering) (body : List Stmt)
  | procedure (name : String) (params : List (String × Option Expr)) (body : List Stmt)
  /-- A call that is passed a procedure of its own. -/
  | callWith (params : List (String × Option Expr)) (f : Expr) (args : List (Role × Expr))
      (body : List Stmt)
  /-- A statement that needs another template, of which there are none. -/
  | elsewhere
  deriving Inhabited

namespace Expr

/-! ### The variables of a tree -/

mutual

/-- Whether a variable occurs in an expression. -/
def mentions (x : String) : Expr → Bool
  | const _ => false
  | name s => s == x
  | list es => anyMentions x es
  | tuple es => anyMentions x es
  | dict es => pairMentions x es
  | attr e _ => mentions x e
  | item e i => mentions x e || mentions x i
  | slice e a b c => mentions x e || mentions x a || mentions x b || mentions x c
  | call f args => mentions x f || argMentions x args
  | filter e _ args => mentions x e || argMentions x args
  | test e _ args => mentions x e || argMentions x args
  | negate e => mentions x e
  | both a b => mentions x a || mentions x b
  | either a b => mentions x a || mentions x b
  | choose c a b => mentions x c || mentions x a || mentions x b
  | compare e ops => mentions x e || opMentions x ops
  | binary _ a b => mentions x a || mentions x b
  | minus e => mentions x e
  | plus e => mentions x e
  | concat es => anyMentions x es
termination_by structural e => e

/-- Whether a variable occurs in one of several expressions. -/
def anyMentions (x : String) : List Expr → Bool
  | [] => false
  | e :: es => mentions x e || anyMentions x es
termination_by structural es => es

/-- Whether a variable occurs in one of several pairs. -/
def pairMentions (x : String) : List (Expr × Expr) → Bool
  | [] => false
  | (k, v) :: es => mentions x k || mentions x v || pairMentions x es
termination_by structural es => es

/-- Whether a variable occurs in one of several arguments. -/
def argMentions (x : String) : List (Role × Expr) → Bool
  | [] => false
  | (_, e) :: es => mentions x e || argMentions x es
termination_by structural es => es

/-- Whether a variable occurs in one of several comparisons. -/
def opMentions (x : String) : List (Comparison × Expr) → Bool
  | [] => false
  | (_, e) :: es => mentions x e || opMentions x es
termination_by structural es => es

end

/-- Whether a variable occurs in an expression that may be left out. -/
def optionMentions (x : String) : Option Expr → Bool
  | some e => mentions x e
  | none => false

end Expr

/-- Whether a variable occurs in the arguments of filters. -/
def Filtering.mentions (x : String) (filters : List Filtering) : Bool :=
  filters.any fun f => Expr.argMentions x f.2

namespace Stmt

mutual

/-- Whether a variable is read in a statement. -/
def mentions (x : String) : Stmt → Bool
  | text _ => false
  | output e => e.mentions x
  | branch arms body => armsMention x arms || bodyMentions x body
  | each _ source test _ body otherwise =>
    source.mentions x || Expr.optionMentions x test || bodyMentions x body ||
      bodyMentions x otherwise
  | assign _ e => e.mentions x
  | assignText _ filters body => Filtering.mentions x filters || bodyMentions x body
  | within bindings body => bindings.any (fun b => b.2.mentions x) || bodyMentions x body
  | filtered filters body => Filtering.mentions x filters || bodyMentions x body
  | procedure _ params body =>
    params.any (fun p => Expr.optionMentions x p.2) || bodyMentions x body
  | callWith params f args body =>
    params.any (fun p => Expr.optionMentions x p.2) || f.mentions x || Expr.argMentions x args ||
      bodyMentions x body
  | elsewhere => false
termination_by structural s => s

/-- Whether a variable is read in one of several statements. -/
def bodyMentions (x : String) : List Stmt → Bool
  | [] => false
  | s :: ss => mentions x s || bodyMentions x ss
termination_by structural ss => ss

/-- Whether a variable is read in one of several arms. -/
def armsMention (x : String) : List (Expr × List Stmt) → Bool
  | [] => false
  | (c, body) :: arms => c.mentions x || bodyMentions x body || armsMention x arms
termination_by structural arms => arms

end

end Stmt

end SlidePress.Template
