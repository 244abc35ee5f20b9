/-! # Blanks

The characters that count as blank space in every script, and the operations that cut them off the
ends of a text or split a text at them. `head_stripLeft` says that what is left never begins with a
stripped character. -/

namespace SlidePress.Text

/-- A blank: tabs, line breaks, the four information separators and the space characters. -/
def isBlank (c : Char) : Bool :=
  let n := c.toNat
  (9 ≤ n && n ≤ 13) || (28 ≤ n && n ≤ 32) || n == 0x85 || n == 0xA0 || n == 0x1680 ||
    (0x2000 ≤ n && n ≤ 0x200A) || n == 0x2028 || n == 0x2029 || n == 0x202F || n == 0x205F ||
    n == 0x3000

/-- A text without the characters at its left end that satisfy `p`. -/
def stripLeftBy (p : Char → Bool) (cs : List Char) : List Char := cs.dropWhile p

/-- A text without the characters at its right end that satisfy `p`. -/
def stripRightBy (p : Char → Bool) (cs : List Char) : List Char := (cs.reverse.dropWhile p).reverse

/-- A text without the characters at either end that satisfy `p`. -/
def stripBy (p : Char → Bool) (cs : List Char) : List Char := stripRightBy p (stripLeftBy p cs)

/-- A text without the blanks at either end. -/
def stripChars (cs : List Char) : List Char := stripBy isBlank cs

/-- A text without the blanks at either end. -/
def strip (s : String) : String := String.ofList (stripChars s.toList)

/-- The maximal runs of characters that are not blank, in order. -/
def wordsFrom (word : List Char) : List Char → List (List Char)
  | [] => if word.isEmpty then [] else [word.reverse]
  | c :: r =>
    if isBlank c then
      if word.isEmpty then wordsFrom [] r else word.reverse :: wordsFrom [] r
    else wordsFrom (c :: word) r

/-- The maximal runs of characters that are not blank, in order. -/
def words (cs : List Char) : List (List Char) := wordsFrom [] cs

theorem isBlank_of_isWhitespace (c : Char) (h : c.isWhitespace = true) : isBlank c = true := by
  simp only [Char.isWhitespace, Bool.or_eq_true, decide_eq_true_eq] at h
  rcases h with ((rfl | rfl) | rfl) | rfl <;> decide

theorem head_stripLeftBy (p : Char → Bool) (cs : List Char) (c : Char)
    (h : (stripLeftBy p cs).head? = some c) : p c = false := by
  induction cs with
  | nil => simp [stripLeftBy] at h
  | cons d r ih =>
    by_cases hd : p d
    · exact ih (by simpa [stripLeftBy, List.dropWhile_cons, hd] using h)
    · have hc : d = c := by simpa [stripLeftBy, List.dropWhile_cons, hd] using h
      simpa [← hc] using hd

end SlidePress.Text
