/-! # Finding and replacing pieces of text

Texts are lists of characters here. All scans go from left to right and never overlap: after a
piece has been found the scan goes on behind it. While a found piece is passed over, a counter says
how many of its characters are still to come, so every scan is a recursion on the text itself.

* `replaceAll`: every occurrence of a piece replaced.
* `splitAt?`: the text before and after the first occurrence.
* `splitOn`: the pieces between the occurrences of a separator. -/

namespace SlidePress.Text

/-- What follows `piece` at the beginning of a text, if the text begins with it. -/
def after? : List Char → List Char → Option (List Char)
  | [], cs => some cs
  | _ :: _, [] => none
  | p :: ps, c :: cs => if p = c then after? ps cs else none

/-- Whether a text begins with `piece`. -/
def startsWith (piece cs : List Char) : Bool := (after? piece cs).isSome

/-- Whether a text ends with `piece`. -/
def endsWith (piece cs : List Char) : Bool := startsWith piece.reverse cs.reverse

/-- The text before and after the first occurrence of `piece`. -/
def splitAt? (piece : List Char) : List Char → Option (List Char × List Char)
  | [] => if piece.isEmpty then some ([], []) else none
  | c :: r =>
    match after? piece (c :: r) with
    | some rest => some ([], rest)
    | none => (splitAt? piece r).map fun (before, rest) => (c :: before, rest)

/-- Whether `piece` occurs in a text. -/
def contains (piece cs : List Char) : Bool := (splitAt? piece cs).isSome

/-- The position of the first occurrence of `piece`. -/
def find? (piece cs : List Char) : Option Nat := (splitAt? piece cs).map fun (before, _) => before.length

/-- The position of the last occurrence of `piece`. -/
def findLast? (piece cs : List Char) : Option Nat :=
  (find? piece.reverse cs.reverse).map fun n => cs.length - n - piece.length

/-- Replaces at most `limit` occurrences of a non-empty piece; the first `skip` characters belong to
an occurrence already replaced. -/
def replaceFrom (old new : List Char) (limit skip : Nat) : List Char → List Char
  | [] => []
  | c :: r =>
    match skip with
    | skip + 1 => replaceFrom old new limit skip r
    | 0 =>
      match limit with
      | 0 => c :: r
      | limit + 1 =>
        if startsWith old (c :: r) then new ++ replaceFrom old new limit (old.length - 1) r
        else c :: replaceFrom old new (limit + 1) 0 r

/-- Puts `new` before each of the first `limit` characters. -/
def interleave (new : List Char) : Nat → List Char → List Char
  | 0, cs => cs
  | _ + 1, [] => new
  | limit + 1, c :: r => new ++ c :: interleave new limit r

/-- Replaces at most `limit` occurrences of `old`; the empty piece occurs before every character and
at the end. -/
def replaceUpTo (limit : Nat) (old new cs : List Char) : List Char :=
  if old.isEmpty then interleave new limit cs else replaceFrom old new limit 0 cs

/-- Replaces every occurrence of `old`. -/
def replaceAll (old new cs : List Char) : List Char := replaceUpTo (cs.length + 1) old new cs

/-- The pieces between the first `limit` occurrences of a non-empty separator; `piece` is the piece
begun, last character first. -/
def splitFrom (sep : List Char) (limit skip : Nat) (piece : List Char) :
    List Char → List (List Char)
  | [] => [piece.reverse]
  | c :: r =>
    match skip with
    | skip + 1 => splitFrom sep limit skip piece r
    | 0 =>
      match limit with
      | 0 => [piece.reverse ++ c :: r]
      | limit + 1 =>
        if startsWith sep (c :: r) then
          piece.reverse :: splitFrom sep limit (sep.length - 1) [] r
        else splitFrom sep (limit + 1) 0 (c :: piece) r

/-- The pieces between the occurrences of a non-empty separator, one more than there are
occurrences. -/
def splitOn (sep cs : List Char) : List (List Char) := splitFrom sep (cs.length + 1) 0 [] cs

/-- How often a piece occurs, without overlap; the empty piece occurs around every character. -/
def countOf (piece cs : List Char) : Nat :=
  if piece.isEmpty then cs.length + 1 else (splitOn piece cs).length - 1

/-- The pieces of text with a separator between neighbours. -/
def joinWith (sep : List Char) : List (List Char) → List Char
  | [] => []
  | [a] => a
  | a :: b :: r => a ++ sep ++ joinWith sep (b :: r)

/-- Replaces every occurrence of `old`. -/
def replace (old new s : String) : String :=
  String.ofList (replaceAll old.toList new.toList s.toList)

/-- Texts with a separator between neighbours. -/
def join (sep : String) (ss : List String) : String :=
  String.ofList (joinWith sep.toList (ss.map String.toList))

/-- Both spellings of a line end with a carriage return become a line feed. -/
def unixLines : List Char → List Char
  | [] => []
  | '\r' :: '\n' :: r => '\n' :: unixLines r
  | c :: r => (if c = '\r' then '\n' else c) :: unixLines r

theorem after?_eq_some_iff (piece cs rest : List Char) :
    after? piece cs = some rest ↔ cs = piece ++ rest := by
  induction piece generalizing cs with
  | nil => simp [after?, eq_comm]
  | cons p ps ih =>
    cases cs with
    | nil => simp [after?]
    | cons c cs =>
      by_cases h : p = c
      · simp [after?, h, ih]
      · simp [after?, h, Ne.symm h]

end SlidePress.Text
