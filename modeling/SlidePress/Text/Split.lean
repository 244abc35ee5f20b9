import SlidePress.Text.Blank
import SlidePress.Text.Search

/-! # Cutting texts into lines, words and pieces

* `splitLines`: the lines of a text, whatever character ends them.
* `wordsUpTo`: the first words of a text and what follows them.
* `splitUpTo`: the pieces between the first occurrences of a separator. -/

namespace SlidePress.Text

/-- A character that ends a line. -/
def isLineEnd (c : Char) : Bool :=
  let n := c.toNat
  (10 ≤ n && n ≤ 13) || (28 ≤ n && n ≤ 30) || n == 0x85 || n == 0x2028 || n == 0x2029

/-- The lines of a text, with or without their ends; `line` is the line begun, last character
first. -/
def splitLinesFrom (keep : Bool) (line : List Char) : List Char → List (List Char)
  | [] => if line.isEmpty then [] else [line.reverse]
  | '\r' :: '\n' :: r =>
    (line.reverse ++ if keep then ['\r', '\n'] else []) :: splitLinesFrom keep [] r
  | c :: r =>
    if isLineEnd c then (line.reverse ++ if keep then [c] else []) :: splitLinesFrom keep [] r
    else splitLinesFrom keep (c :: line) r

/-- The lines of a text, with or without their ends. -/
def splitLines (keep : Bool) (cs : List Char) : List (List Char) := splitLinesFrom keep [] cs

/-- The first words of a text, and what follows them as one piece without the blanks before it. -/
def wordsUpTo : Nat → List Char → List (List Char)
  | 0, cs =>
    let cs := cs.dropWhile isBlank
    if cs.isEmpty then [] else [cs]
  | n + 1, cs =>
    let cs := cs.dropWhile isBlank
    if cs.isEmpty then []
    else
      let word := cs.takeWhile fun c => !isBlank c
      word :: wordsUpTo n (cs.drop word.length)

/-- The pieces between the first `limit` occurrences of a separator. -/
def splitUpTo (limit : Nat) (sep cs : List Char) : List (List Char) := splitFrom sep limit 0 [] cs

/-- What a function that cuts from the left gives when it cuts from the right. -/
def fromRight (cut : List Char → List (List Char)) (cs : List Char) : List (List Char) :=
  ((cut cs.reverse).map List.reverse).reverse

end SlidePress.Text
