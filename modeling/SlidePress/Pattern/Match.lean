import SlidePress.Pattern.Basic

/-! # Searching for an expression

An expression is matched from left to right with a continuation: what is to be matched behind it.
The alternatives are tried in order until the continuation succeeds, so a match is found exactly if
there is one, and groups hold what the first successful way put into them. A repetition whose body
matched nothing is not begun again; its number of rounds is thereby bounded by the length of the
text and the number asked for.

* `Pattern.run`: matches an expression at a place.
* `Pattern.search`: whether an expression matches anywhere in a text. -/

namespace SlidePress.Pattern

/-- A place in a text: what is before it (nearest first) and behind it, and what the groups have
matched, last match first. -/
structure Spot where
  before : List Char
  rest : List Char
  groups : List (Nat × List Char)
  deriving Inhabited

/-- What is to be matched behind an expression. -/
abbrev Next := Spot → Option Spot

namespace Spot

/-- How many characters are before the place. -/
def index (s : Spot) : Nat := s.before.length

/-- Goes over one character. -/
def step (s : Spot) : Option (Char × Spot) :=
  match s.rest with
  | [] => none
  | c :: r => some (c, { s with before := c :: s.before, rest := r })

/-- Goes back over some characters. -/
def back : Nat → Spot → Option Spot
  | 0, s => some s
  | n + 1, s =>
    match s.before with
    | [] => none
    | c :: b => back n { s with before := b, rest := c :: s.rest }

/-- Whether the place is between a word character and something else. -/
def atEdge (ascii : Bool) (s : Spot) : Bool :=
  let isWord (c : Option Char) : Bool :=
    match c with
    | some c => Kind.word.holds ascii c
    | none => false
  isWord s.before.head? != isWord s.rest.head?

/-- Whether a place is as asked for. -/
def satisfies (s : Spot) : Place → Bool
  | .lineStart => s.before.head?.all (· == '\n')
  | .lineEnd => s.rest.head?.all (· == '\n')
  | .textStart => s.before.isEmpty
  | .textEnd => s.rest.isEmpty
  | .nearEnd => s.rest.isEmpty || s.rest == ['\n']
  | .edge ascii => s.atEdge ascii
  | .inner ascii => !(s.before.isEmpty && s.rest.isEmpty) && !s.atEdge ascii

/-- Goes over a given text. -/
def passText (ignoreCase : Bool) : List Char → Spot → Option Spot
  | [], s => some s
  | c :: cs, s =>
    match s.step with
    | some (a, s) =>
      if a == c || (ignoreCase && (caseForms a).any fun x => (caseForms c).contains x) then
        passText ignoreCase cs s
      else none
    | none => none

end Spot

/-- Rounds of a repetition: `round` matches the body once, `done` counts the rounds so far, `last`
is where the round before began. -/
def rounds (round : Spot → Next → Option Spot) (least : Nat) (most : Option Nat) (mode : Mode) :
    Nat → Nat → Option Nat → Spot → Next → Option Spot
  | 0, _, _, s, next => next s
  | fuel + 1, done, last, s, next =>
    let again : Unit → Option Spot := fun _ =>
      round s fun s' => rounds round least most mode fuel (done + 1) (some s.index) s' next
    if done < least then again ()
    else
      let mayGoOn := most.all (fun m => done < m) && last != some s.index
      match mode with
      | .lazy =>
        match next s with
        | some r => some r
        | none => if mayGoOn then again () else none
      | _ =>
        match (if mayGoOn then again () else none) with
        | some r => some r
        | none => next s

/-- More rounds than a repetition has at a place. -/
def roundBound (least : Nat) (s : Spot) : Nat := least + s.rest.length + 2

mutual

/-- Matches an expression at a place, with something to be matched behind it. -/
def run : Pattern → Spot → Next → Option Spot
  | one negated ignoreCase cs, s, next =>
    match s.step with
    | some (c, s) => if inSet negated ignoreCase cs c then next s else none
    | none => none
  | any all, s, next =>
    match s.step with
    | some (c, s) => if all || c != '\n' then next s else none
    | none => none
  | place p, s, next => if s.satisfies p then next s else none
  | seq ps, s, next => runSeq ps s next
  | alt ps, s, next => runAlt ps s next
  | group number p, s, next =>
    run p s fun s' =>
      match number with
      | none => next s'
      | some n =>
        let matched := (s'.before.take (s'.index - s.index)).reverse
        next { s' with groups := (n, matched) :: s'.groups }
  | loop least most mode p, s, next =>
    match mode with
    | .firm =>
      match rounds (fun s k => run p s k) least most .greedy (roundBound least s) 0 none s some with
      | some s' => next s'
      | none => none
    | mode => rounds (fun s k => run p s k) least most mode (roundBound least s) 0 none s next
  | backref n ignoreCase _ _, s, next =>
    match s.groups.lookup n with
    | some cs => (s.passText ignoreCase cs).bind next
    | none => none
  | ahead negated p, s, next =>
    match run p s some with
    | some s' => if negated then none else next { s with groups := s'.groups }
    | none => if negated then next s else none
  | behind negated w p, s, next =>
    match s.back w with
    | none => if negated then next s else none
    | some b =>
      match run p b (fun s' => if s'.index = s.index then some s' else none) with
      | some s' => if negated then none else next { s with groups := s'.groups }
      | none => if negated then next s else none
  | atomic p, s, next =>
    match run p s some with
    | some s' => next s'
    | none => none
  | ifGroup n yes no, s, next =>
    if (s.groups.lookup n).isSome then run yes s next else run no s next
  | never, _, _ => none
termination_by structural p => p

/-- Matches expressions one after the other. -/
def runSeq : List Pattern → Spot → Next → Option Spot
  | [], s, next => next s
  | p :: ps, s, next => run p s fun s' => runSeq ps s' next
termination_by structural ps => ps

/-- Matches the first of several expressions that leads to a match. -/
def runAlt : List Pattern → Spot → Next → Option Spot
  | [], _, _ => none
  | p :: ps, s, next =>
    match run p s next with
    | some r => some r
    | none => runAlt ps s next
termination_by structural ps => ps

end

/-- Whether an expression matches at some place from one on. -/
def searchFrom (p : Pattern) (before : List Char) : List Char → Bool
  | [] => (run p ⟨before, [], []⟩ some).isSome
  | c :: r => (run p ⟨before, c :: r, []⟩ some).isSome || searchFrom p (c :: before) r

/-- Whether an expression matches anywhere in a text. -/
def search (p : Pattern) (s : String) : Bool := searchFrom p [] s.toList

end SlidePress.Pattern
