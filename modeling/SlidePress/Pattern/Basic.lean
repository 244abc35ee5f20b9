import SlidePress.Text.Blank
import SlidePress.Text.Case
import SlidePress.Text.Word

/-! # Regular expressions

The expressions that a schema may demand of a text, with groups, references back to them,
assertions and the three ways to repeat. Every node carries what the switches in force decided for
it.

* `Pattern`: an expression.
* `Pattern.Class`: a set of characters.
* `Pattern.width`: the least and the greatest number of characters an expression matches. -/

namespace SlidePress

namespace Pattern

/-- A class of characters with a letter of its own. -/
inductive Kind where
  | digit
  | blank
  | word
  deriving DecidableEq, Repr

/-- A part of a set of characters. -/
inductive Class where
  | single (c : Char)
  | range (lo hi : Char)
  /-- A lettered class or its complement, by the whole alphabet or by ASCII alone. -/
  | kind (k : Kind) (negated ascii : Bool)
  deriving DecidableEq, Repr

/-- A place that an expression may ask for without matching a character. -/
inductive Place where
  | lineStart
  | lineEnd
  | textStart
  | textEnd
  /-- The end, or the place before a line end that is the last character. -/
  | nearEnd
  | edge (ascii : Bool)
  | inner (ascii : Bool)
  deriving DecidableEq, Repr

/-- How a repetition chooses its number. -/
inductive Mode where
  /-- As many as possible, fewer if the rest asks for it. -/
  | greedy
  /-- As few as possible, more if the rest asks for it. -/
  | lazy
  /-- As many as possible. -/
  | firm
  deriving DecidableEq, Repr

end Pattern

/-- A regular expression. -/
inductive Pattern where
  /-- A character of a set, or one outside it. -/
  | one (negated ignoreCase : Bool) (cs : List Pattern.Class)
  /-- Any character but a line feed, or any character. -/
  | any (all : Bool)
  | place (p : Pattern.Place)
  | seq (ps : List Pattern)
  | alt (ps : List Pattern)
  | group (number : Option Nat) (p : Pattern)
  | loop (least : Nat) (most : Option Nat) (mode : Pattern.Mode) (p : Pattern)
  /-- The text that a group matched last. -/
  | backref (number : Nat) (ignoreCase : Bool) (least : Nat) (most : Option Nat)
  | ahead (negated : Bool) (p : Pattern)
  | behind (negated : Bool) (width : Nat) (p : Pattern)
  /-- An expression that is matched in one way only. -/
  | atomic (p : Pattern)
  /-- One of two expressions, by whether a group has matched. -/
  | ifGroup (number : Nat) (yes no : Pattern)
  | never
  deriving Inhabited

namespace Pattern

/-- The sum of two upper bounds. -/
def addMost : Option Nat → Option Nat → Option Nat
  | some a, some b => some (a + b)
  | _, _ => none

/-- The greater of two upper bounds. -/
def maxMost : Option Nat → Option Nat → Option Nat
  | some a, some b => some (Nat.max a b)
  | _, _ => none

mutual

/-- The least and the greatest number of characters an expression matches. -/
def width : Pattern → Nat × Option Nat
  | one _ _ _ => (1, some 1)
  | any _ => (1, some 1)
  | place _ => (0, some 0)
  | seq ps => widthSeq ps
  | alt ps => widthAlt ps
  | group _ p => width p
  | loop least most _ p =>
    let (lo, hi) := width p
    (lo * least, match hi, most with
      | some 0, _ => some 0
      | _, some 0 => some 0
      | some h, some m => some (h * m)
      | _, _ => none)
  | backref _ _ lo hi => (lo, hi)
  | ahead _ _ => (0, some 0)
  | behind _ _ _ => (0, some 0)
  | atomic p => width p
  | ifGroup _ yes no =>
    let (a, b) := width yes
    let (c, d) := width no
    (Nat.min a c, maxMost b d)
  | never => (0, some 0)
termination_by structural p => p

/-- The widths of expressions one after the other. -/
def widthSeq : List Pattern → Nat × Option Nat
  | [] => (0, some 0)
  | p :: ps =>
    let (a, b) := width p
    let (c, d) := widthSeq ps
    (a + c, addMost b d)
termination_by structural ps => ps

/-- The widths of expressions of which one is chosen. -/
def widthAlt : List Pattern → Nat × Option Nat
  | [] => (0, some 0)
  | [p] => width p
  | p :: ps =>
    let (a, b) := width p
    let (c, d) := widthAlt ps
    (Nat.min a c, maxMost b d)
termination_by structural ps => ps

end

/-- A word character of ASCII. -/
def isAsciiWord (c : Char) : Bool := c.isAlphanum || c == '_'

/-- A blank of ASCII. -/
def isAsciiBlank (c : Char) : Bool :=
  c == ' ' || c == '\t' || c == '\n' || c == '\r' || c == '\x0b' || c == '\x0c'

/-- Membership in a lettered class. -/
def Kind.holds (k : Kind) (ascii : Bool) (c : Char) : Bool :=
  match k, ascii with
  | digit, true => c.isDigit
  | digit, false => Text.isDecimal c
  | blank, true => isAsciiBlank c
  | blank, false => Text.isBlank c
  | word, true => isAsciiWord c
  | word, false => Text.isWord c

/-- Membership in a part of a set. -/
def Class.holds (c : Char) : Class → Bool
  | single a => a == c
  | range lo hi => decide (lo ≤ c ∧ c ≤ hi)
  | kind k negated ascii => k.holds ascii c != negated

/-- The other forms of a character when case does not count. -/
def caseForms (c : Char) : List Char :=
  let single : List Char → List Char
    | [a] => [a]
    | _ => []
  c :: single (Text.lowerChar c) ++ single (Text.upperChar c) ++
    (single (Text.lowerChar c)).flatMap fun a => single (Text.upperChar a)

/-- Membership in a set. -/
def inSet (negated ignoreCase : Bool) (cs : List Class) (c : Char) : Bool :=
  let forms := if ignoreCase then caseForms c else [c]
  (forms.any fun a => cs.any fun k => k.holds a) != negated

end Pattern

end SlidePress
