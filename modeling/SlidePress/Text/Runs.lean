/-! # Sets of code points as runs

A set of code points that consists of few runs is written as the ascending list of the points where
membership changes: the first entry begins the first run, the second is the first point after it,
and so on. `inRuns` reads such a list; `inRuns_cons_cons` is its one equation. -/

namespace SlidePress.Text

/-- Whether a code point lies in one of the runs. -/
def inRuns : List Nat → Nat → Bool
  | [], _ => false
  | [lo], n => decide (lo ≤ n)
  | lo :: hi :: rest, n => if n < lo then false else if n < hi then true else inRuns rest n

/-- How far a code point is from the beginning of its run, `0` outside all runs. -/
def offsetInRun : List Nat → Nat → Nat
  | [], _ => 0
  | [lo], n => n - lo
  | lo :: hi :: rest, n => if n < hi then n - lo else offsetInRun rest n

theorem inRuns_cons_cons (lo hi : Nat) (rest : List Nat) (n : Nat) :
    inRuns (lo :: hi :: rest) n =
      if n < lo then false else if n < hi then true else inRuns rest n := rfl

end SlidePress.Text
