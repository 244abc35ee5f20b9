import SlidePress.Template.Check
import SlidePress.Template.Reader

/-! # Reading templates

Statements that enclose others read on until one of their end words: each is given the reader of
blocks for what it encloses, and `Stmt.blockAt` ties the knot.

* `parse`: the statements of a template. -/

namespace SlidePress.Template

/-- Statements up to an end word: the word with the tokens behind it, if there is one, and the
pieces that follow. -/
structure Block where
  body : List Stmt
  ending : Option (String × List Token)
  rest : List Piece

/-- Reads statements up to one of some end words. -/
abbrev BlockReader := List String → List Piece → Attempt Block

namespace Stmt

/-- Reads the statements of a block that one word ends. -/
def blockTo (block : BlockReader) (word : String) (ps : List Piece) :
    Attempt (List Stmt × List Piece) := do
  let b ← block [word] ps
  match b.ending with
  | some (_, []) => return (b.body, b.rest)
  | _ => throw .templateSyntax

/-- Reads the arms of a choice behind its first word. -/
def arms (block : BlockReader) : Nat → List Token → List Piece →
    Attempt (List (Expr × List Stmt) × List Stmt × List Piece)
  | 0, _, _ => throw .templateSyntax
  | n + 1, ts, ps => do
    let condition ← Read.all (do
      let e ← Read.tuple Read.plainExpr (Read.tupleEnd []) false
      Read.headEnd
      return e) ts
    let b ← block [ "elif", "else", "endif"] ps
    match b.ending with
    | some ("elif", ts) =>
      let (more, otherwise, rest) ← arms block n ts b.rest
      return ((condition, b.body) :: more, otherwise, rest)
    | some ("else", ts) =>
      Read.all Read.headEnd ts
      let (otherwise, rest) ← blockTo block "endif" b.rest
      return ([(condition, b.body)], otherwise, rest)
    | some (_, []) => return ([(condition, b.body)], [], b.rest)
    | _ => throw .templateSyntax

/-- The head of a loop. -/
def loopHead : Read (Target × Expr × Option Expr × Option Nat) := do
  let t ← Read.target [ "in"]
  Read.expectWord "in"
  let source ← Read.tuple Read.plainExpr (Read.tupleEnd [ "recursive"]) false
  let test ← if ← Read.acceptWord "if" then some <$> Read.expr else pure none
  let depth ← if ← Read.acceptWord "recursive" then pure (some 0) else pure none
  Read.headEnd
  return (t, source, test, depth)

/-- Reads a loop behind its first word. -/
def loop (block : BlockReader) (ts : List Token) (ps : List Piece) :
    Attempt (Stmt × List Piece) := do
  let (t, source, test, depth) ← Read.all loopHead ts
  let b ← block [ "endfor", "else"] ps
  match b.ending with
  | some ("else", ts) =>
    Read.all Read.headEnd ts
    let (otherwise, rest) ← blockTo block "endfor" b.rest
    return (.each t source test depth b.body otherwise, rest)
  | some (_, []) => return (.each t source test depth b.body [], b.rest)
  | _ => throw .templateSyntax

/-- Reads an assignment behind its first word. -/
def assignment (block : BlockReader) (ts : List Token) (ps : List Piece) :
    Attempt (Stmt × List Piece) := do
  let head : Read (Target × (Expr ⊕ List Filtering)) := do
    let t ← Read.assigned
    if ← Read.accept "=" then return (t, .inl (← Read.exprs))
    else
      let fs ← Read.filterings (← Read.left)
      Read.headEnd
      return (t, .inr fs)
  match ← Read.all head ts with
  | (t, .inl e) => return (.assign t e, ps)
  | (t, .inr fs) =>
    let (body, rest) ← blockTo block "endset" ps
    return (.assignText t fs body, rest)

/-- Reads a scope behind its first word. -/
def scope (block : BlockReader) (ts : List Token) (ps : List Piece) :
    Attempt (Stmt × List Piece) := do
  let bs ← Read.all (do
    let bs ← Read.bindings ((← Read.left) + 1)
    Read.headEnd
    return bs) ts
  let (body, rest) ← blockTo block "endwith" ps
  return (.within bs body, rest)

/-- Reads filtered statements behind their first word. -/
def filteredBlock (block : BlockReader) (ts : List Token) (ps : List Piece) :
    Attempt (Stmt × List Piece) := do
  let fs ← Read.all (do
    let f ← Read.filtering Read.expr
    let fs ← Read.filterings (← Read.left)
    Read.headEnd
    return f :: fs) ts
  let (body, rest) ← blockTo block "endfilter" ps
  return (.filtered fs body, rest)

/-- Reads the definition of a procedure behind its first word. -/
def definition (block : BlockReader) (ts : List Token) (ps : List Piece) :
    Attempt (Stmt × List Piece) := do
  let (name, params) ← Read.all (do
    let name ← Read.takeName
    if (Read.constants.lookup name).isSome then Read.fail
    Read.expect "("
    let params ← Read.params (← Read.left) false
    Read.headEnd
    return (name, params)) ts
  let (body, rest) ← blockTo block "endmacro" ps
  return (.procedure name params body, rest)

/-- Reads a call with a procedure of its own behind its first word. -/
def callBlock (block : BlockReader) (ts : List Token) (ps : List Piece) :
    Attempt (Stmt × List Piece) := do
  let (params, call) ← Read.all (do
    let params ← if ← Read.accept "(" then Read.params (← Read.left) false else pure []
    let e ← Read.expr
    Read.headEnd
    return (params, e)) ts
  match call with
  | .call f args =>
    let (body, rest) ← blockTo block "endcall" ps
    return (.callWith params f args body, rest)
  | _ => throw .templateSyntax

/-- Reads a named block behind its first word; the name may be repeated at its end. -/
def namedBlock (block : BlockReader) (ts : List Token) (ps : List Piece) :
    Attempt (Stmt × List Piece) := do
  let name ← Read.all (do
    let name ← Read.takeName
    let _ ← Read.acceptWord "scoped"
    let _ ← Read.acceptWord "required"
    Read.headEnd
    return name) ts
  let b ← block [ "endblock"] ps
  match b.ending with
  | some (_, ts) =>
    Read.all (do
      let _ ← Read.acceptWord name
      return ()) ts
    return (.within [] b.body, b.rest)
  | none => throw .templateSyntax

/-- Reads the statements to print behind their word. -/
def printed (ts : List Token) (ps : List Piece) : Attempt (Stmt × List Piece) := do
  let e ← Read.all Read.expr ts
  return (.output e, ps)

/-- Reads a statement that begins with a word. -/
def ofTag (block : BlockReader) (word : String) (ts : List Token) (ps : List Piece) :
    Attempt (Stmt × List Piece) := do
  match word with
  | "if" =>
    let (branches, otherwise, rest) ← arms block (ps.length + 1) ts ps
    return (.branch branches otherwise, rest)
  | "for" => loop block ts ps
  | "set" => assignment block ts ps
  | "with" => scope block ts ps
  | "filter" => filteredBlock block ts ps
  | "macro" => definition block ts ps
  | "call" => callBlock block ts ps
  | "block" => namedBlock block ts ps
  | "print" => printed ts ps
  | word =>
    if [ "include", "extends", "import", "from"].contains word && !ts.isEmpty then
      return (.elsewhere, ps)
    else throw .templateSyntax

/-- Reads statements up to one of some end words, in blocks of at most the given depth. -/
def blockAt : Nat → BlockReader
  | 0, _, ps => .ok ⟨[], none, ps⟩
  | n + 1, ends, ps => do
    match ps with
    | [] => return ⟨[], none, []⟩
    | .text s :: ps =>
      let b ← blockAt n ends ps
      return { b with body := .text s :: b.body }
    | .output ts :: ps =>
      let e ← Read.all Read.exprs ts
      let b ← blockAt n ends ps
      return { b with body := .output e :: b.body }
    | .tag (.name word :: ts) :: ps =>
      if ends.contains word then return ⟨[], some (word, ts), ps⟩
      else
        let (s, ps) ← ofTag (blockAt n) word ts ps
        let b ← blockAt n ends ps
        return { b with body := s :: b.body }
    | .tag _ :: _ => throw .templateSyntax

end Stmt

/-- The statements of a template text, where `k` are the filters and tests there are. -/
def parse (k : Known) (d : Dialect) (s : String) : Attempt (List Stmt) := do
  let ps ← Piece.ofText d s
  let b ← Stmt.blockAt (ps.length + 1) [] ps
  if Stmt.bodyKnown k false b.body && Stmt.bodySparesLoop b.body then return b.body
  else throw .templateSyntax

end SlidePress.Template
