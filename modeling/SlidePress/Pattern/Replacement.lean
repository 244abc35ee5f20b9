import SlidePress.Fault
import SlidePress.Json.Reader
import SlidePress.Number.Read

/-! # Replacement texts

The text that takes the place of a match. In it a backslash has a meaning: it stands before a letter
for a control character, before digits for a character by its number or for a group, and before a
letter g for a group by name. Here expressions have no groups, so only the whole match can be meant.

* `Replacement.expand`: what a replacement text stands for. -/

namespace SlidePress.Replacement

/-- The control characters by their letters. -/
def controls : List (Char × Char) :=
  [('a', '\x07'), ('b', '\x08'), ('f', '\x0c'), ('n', '\n'), ('r', '\r'), ('t', '\t'),
    ('v', '\x0b'), ('\\', '\\')]

/-- A digit of base eight. -/
def isOctal (c : Char) : Bool := decide ('0' ≤ c ∧ c ≤ '7')

/-- The number written by digits of base eight. -/
def octal (cs : List Char) : Nat := cs.foldl (fun n c => n * 8 + (c.toNat - 48)) 0

/-- Whether a text is a name. -/
def isName : List Char → Bool
  | c :: r => (Text.isLetter c || c == '_') && r.all Text.isWord
  | [] => false

/-- What an escape stands for, where `whole` is the match, and how many characters it takes. -/
def escape (whole : List Char) : List Char → Attempt (List Char × Nat)
  | [] => .error .malformedPattern
  | 'g' :: r =>
    match r with
    | '<' :: r =>
      let name := r.takeWhile (· != '>')
      if name.isEmpty ∨ name.length = r.length then .error .malformedPattern
      else if isName name then .error .noIndex
      else if Number.readInt 10 name = some 0 then .ok (whole, name.length + 3)
      else .error .malformedPattern
    | _ => .error .malformedPattern
  | '0' :: r =>
    let ds := (r.take 2).takeWhile isOctal
    .ok ([Char.ofNat (octal ds)], ds.length + 1)
  | c :: r =>
    if c.isDigit then
      let ds := c :: r.take 2
      if ds.length = 3 ∧ ds.all isOctal ∧ octal ds ≤ 255 then .ok ([Char.ofNat (octal ds)], 3)
      else .error .malformedPattern
    else
      match controls.lookup c with
      | some a => .ok ([a], 1)
      | none => if c.isAlpha then .error .malformedPattern else .ok (['\\', c], 1)

/-- What a replacement text stands for; the first `skip` characters belong to an escape. -/
def expandFrom (whole : List Char) (skip : Nat) : List Char → Attempt (List Char)
  | [] => .ok []
  | c :: r =>
    match skip with
    | k + 1 => expandFrom whole k r
    | 0 =>
      if c = '\\' then do
        let (cs, n) ← escape whole r
        return cs ++ (← expandFrom whole n r)
      else do return c :: (← expandFrom whole 0 r)

/-- What a replacement text stands for, where `whole` is the match. -/
def expand (whole cs : List Char) : Attempt (List Char) := expandFrom whole 0 cs

/-- A text without a backslash stands for itself. -/
theorem expand_eq_self (whole cs : List Char) (h : '\\' ∉ cs) : expand whole cs = .ok cs := by
  unfold expand
  induction cs with
  | nil => rfl
  | cons c r ih =>
    have hc : c ≠ '\\' := fun e => h (by simp [e])
    have hr : '\\' ∉ r := fun m => h (List.mem_cons_of_mem _ m)
    simp [expandFrom, hc, ih hr, bind, Except.bind, pure, Except.pure]

end SlidePress.Replacement
