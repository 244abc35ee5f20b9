import SlidePress.Template.Basic

/-! # Checks before a template runs

A filter or test without a definition is refused when a template is read, unless it stands under a
condition: there it fails only when it is reached. Loops, scopes and procedures end the reach of a
condition around them. The variable that stands for a running loop is not assigned in loops.

* `Stmt.bodyKnown`: the filters and tests outside conditions are known.
* `Stmt.bodySparesLoop`: no loop assigns its own variable. -/

namespace SlidePress.Template

/-- The names of filters and tests that have a definition. -/
structure Known where
  filters : List String
  tests : List String

namespace Expr

mutual

/-- Whether every filter and test outside conditions is known. -/
def known (k : Known) (soft : Bool) : Expr → Bool
  | const _ => true
  | name _ => true
  | list es => allKnown k soft es
  | tuple es => allKnown k soft es
  | dict es => pairsKnown k soft es
  | attr e _ => known k soft e
  | item e i => known k soft e && known k soft i
  | slice e a b c => known k soft e && known k soft a && known k soft b && known k soft c
  | call f args => known k soft f && argsKnown k soft args
  | filter e f args =>
    (soft || k.filters.contains f) && known k soft e && argsKnown k soft args
  | test e t args => (soft || k.tests.contains t) && known k soft e && argsKnown k soft args
  | negate e => known k soft e
  | both a b => known k soft a && known k soft b
  | either a b => known k soft a && known k soft b
  | choose c a b => known k true c && known k true a && known k true b
  | compare e ops => known k soft e && opsKnown k soft ops
  | binary _ a b => known k soft a && known k soft b
  | minus e => known k soft e
  | plus e => known k soft e
  | concat es => allKnown k soft es
termination_by structural e => e

/-- Every filter and test of several expressions is known. -/
def allKnown (k : Known) (soft : Bool) : List Expr → Bool
  | [] => true
  | e :: es => known k soft e && allKnown k soft es
termination_by structural es => es

/-- Every filter and test of several pairs is known. -/
def pairsKnown (k : Known) (soft : Bool) : List (Expr × Expr) → Bool
  | [] => true
  | (a, b) :: es => known k soft a && known k soft b && pairsKnown k soft es
termination_by structural es => es

/-- Every filter and test of several arguments is known. -/
def argsKnown (k : Known) (soft : Bool) : List (Role × Expr) → Bool
  | [] => true
  | (_, e) :: es => known k soft e && argsKnown k soft es
termination_by structural es => es

/-- Every filter and test of several comparisons is known. -/
def opsKnown (k : Known) (soft : Bool) : List (Comparison × Expr) → Bool
  | [] => true
  | (_, e) :: es => known k soft e && opsKnown k soft es
termination_by structural es => es

end

/-- Every filter and test of an expression that may be left out is known. -/
def optionKnown (k : Known) (soft : Bool) : Option Expr → Bool
  | some e => known k soft e
  | none => true

end Expr

/-- Whether every filter in a row is known. -/
def Filtering.known (k : Known) (filters : List Filtering) : Bool :=
  filters.all fun f => k.filters.contains f.1 && Expr.argsKnown k false f.2

namespace Target

mutual

/-- Whether a variable is among the targets. -/
def binds (x : String) : Target → Bool
  | name s => s == x
  | tuple ts => anyBinds x ts
  | field _ _ => false
termination_by structural t => t

/-- Whether a variable is among several targets. -/
def anyBinds (x : String) : List Target → Bool
  | [] => false
  | t :: ts => binds x t || anyBinds x ts
termination_by structural ts => ts

end

end Target

namespace Stmt

mutual

/-- Whether every filter and test outside conditions is known. -/
def known (k : Known) (soft : Bool) : Stmt → Bool
  | text _ => true
  | output e => e.known k soft
  | branch arms otherwise => armsKnown k arms && bodyKnown k true otherwise
  | each _ source test _ body otherwise =>
    source.known k soft && Expr.optionKnown k false test && bodyKnown k false body &&
      bodyKnown k false otherwise
  | assign _ e => e.known k soft
  | assignText _ filters body => Filtering.known k filters && bodyKnown k false body
  | within bindings body => bindings.all (fun b => b.2.known k soft) && bodyKnown k false body
  | filtered filters body => Filtering.known k filters && bodyKnown k false body
  | procedure _ params body =>
    params.all (fun p => Expr.optionKnown k false p.2) && bodyKnown k false body
  | callWith params f args body =>
    params.all (fun p => Expr.optionKnown k false p.2) && f.known k soft &&
      Expr.argsKnown k soft args && bodyKnown k false body
  | elsewhere => true
termination_by structural s => s

/-- Every filter and test of several statements is known. -/
def bodyKnown (k : Known) (soft : Bool) : List Stmt → Bool
  | [] => true
  | s :: ss => known k soft s && bodyKnown k soft ss
termination_by structural ss => ss

/-- Every filter and test of several arms is known, conditions apart. -/
def armsKnown (k : Known) : List (Expr × List Stmt) → Bool
  | [] => true
  | (c, body) :: arms => c.known k true && bodyKnown k true body && armsKnown k arms
termination_by structural arms => arms

end

mutual

/-- Whether a variable is given a value anywhere in a statement, procedures' parameters apart. -/
def sets (x : String) : Stmt → Bool
  | branch arms otherwise => armsSet x arms || bodySets x otherwise
  | each t _ _ _ body otherwise => t.binds x || bodySets x body || bodySets x otherwise
  | assign t _ => t.binds x
  | assignText t _ body => t.binds x || bodySets x body
  | within _ body => bodySets x body
  | filtered _ body => bodySets x body
  | procedure _ _ body => bodySets x body
  | callWith _ _ _ body => bodySets x body
  | _ => false
termination_by structural s => s

/-- Whether a variable is given a value in several statements. -/
def bodySets (x : String) : List Stmt → Bool
  | [] => false
  | s :: ss => sets x s || bodySets x ss
termination_by structural ss => ss

/-- Whether a variable is given a value in several arms. -/
def armsSet (x : String) : List (Expr × List Stmt) → Bool
  | [] => false
  | (_, body) :: arms => bodySets x body || armsSet x arms
termination_by structural arms => arms

end

mutual

/-- Whether no loop gives a value to the variable that stands for the loop itself. -/
def sparesLoop : Stmt → Bool
  | branch arms otherwise => armsSpareLoop arms && bodySparesLoop otherwise
  | each t _ _ _ body otherwise =>
    !(t.binds "loop" || bodySets "loop" body || bodySets "loop" otherwise)
  | assignText _ _ body => bodySparesLoop body
  | within _ body => bodySparesLoop body
  | filtered _ body => bodySparesLoop body
  | procedure _ _ body => bodySparesLoop body
  | callWith _ _ _ body => bodySparesLoop body
  | _ => true
termination_by structural s => s

/-- No loop of several statements gives a value to the variable for the loop. -/
def bodySparesLoop : List Stmt → Bool
  | [] => true
  | s :: ss => sparesLoop s && bodySparesLoop ss
termination_by structural ss => ss

/-- No loop of several arms gives a value to the variable for the loop. -/
def armsSpareLoop : List (Expr × List Stmt) → Bool
  | [] => true
  | (_, body) :: arms => bodySparesLoop body && armsSpareLoop arms
termination_by structural arms => arms

end

end Stmt

end SlidePress.Template
