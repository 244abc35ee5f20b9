import Mathlib
import SlidePress.Citation.Collect
import SlidePress.Pattern.Parser

/-! # Groups of citations by expressions

The groups of citations in a text are what one regular expression matches in it, and the mentions in a
group are what another one matches between its brackets. Matches are taken from left to right, each one
behind the one before.

* `groupPattern`, `mentionPattern`: the two expressions.
* `occurrencesFrom`: the matches of an expression in a text.
* `extract`: the citations of a text. -/

namespace SlidePress.Citation

/-- A given character. -/
def character (c : Char) : Pattern := .one false false [.single c]

/-- Characters of a name, at least one. -/
def nameCharacters : Pattern :=
  .loop 1 none .greedy (.one false false [.kind .word false false, .single '-'])

/-- Any number of blanks. -/
def blanks : Pattern := .loop 0 none .greedy (.one false false [.kind .blank false false])

/-- Characters that end neither a mention nor a group, at least one. -/
def placeCharacters : Pattern := .loop 1 none .greedy (.one true false [.single ';', .single ']'])

/-- Expressions one after the other, or nothing. -/
def possibly (ps : List Pattern) : Pattern := .loop 0 (some 1) .greedy (.group none (.seq ps))

/-- The parts of a mention. -/
def mentionParts : List Pattern :=
  [character '@', nameCharacters, possibly [character ',', blanks, placeCharacters]]

/-- One more mention in a group. -/
def nextMention : Pattern := .group none (.seq (character ';' :: blanks :: mentionParts))

/-- The mentions of a group. -/
def mentionsPattern : Pattern := .seq (mentionParts ++ [.loop 0 none .greedy nextMention])

/-- **A group in its brackets**; what is between them is kept. -/
def groupPattern : Pattern := .seq [character '[', .group (some 1) mentionsPattern, character ']']

/-- **A mention**; its name and where to look are kept. -/
def mentionPattern : Pattern :=
  .seq [character '@', .group (some 1) nameCharacters,
    possibly [character ',', blanks, .group (some 2) placeCharacters]]

set_option maxRecDepth 2000 in
theorem parse_groupPattern :
    Pattern.parse "\\[(@[\\w-]+(?:,\\s*[^;\\]]+)?(?:;\\s*@[\\w-]+(?:,\\s*[^;\\]]+)?)*)\\]" =
      .ok groupPattern := by
  cbv

theorem parse_mentionPattern :
    Pattern.parse "@([\\w-]+)(?:,\\s*([^;\\]]+))?" = .ok mentionPattern := by
  cbv

/-- The matches of an expression that matches no empty text, in a text with something `before` it: where
each one begins, and where the matcher is behind it. The first `skip` characters are in a match that has
been found. -/
def occurrencesFrom (p : Pattern) (skip : Nat) (before : List Char) :
    List Char → List (Nat × Pattern.Spot)
  | [] => []
  | c :: r =>
    match skip with
    | skip + 1 => occurrencesFrom p skip (c :: before) r
    | 0 =>
      match p.run ⟨before, c :: r, []⟩ some with
      | some s => (before.length, s) :: occurrencesFrom p (s.index - before.length - 1) (c :: before) r
      | none => occurrencesFrom p 0 (c :: before) r

/-- What a group has kept, if anything. -/
def kept (s : Pattern.Spot) (number : Nat) : List Char := (s.groups.lookup number).getD []

/-- The mention that ends at a place. -/
def mentionAt (s : Pattern.Spot) : Mention := ⟨String.ofList (kept s 1), locatorOf (kept s 2)⟩

/-- The mentions that are matched in a text. -/
def mentionsOf (cs : List Char) : List Mention :=
  (occurrencesFrom mentionPattern 0 [] cs).map fun e => mentionAt e.2

/-- **The citations of a text**: of each group the mentions between its brackets. -/
def extract (s : String) : List Citation :=
  (occurrencesFrom groupPattern 0 [] s.toList).flatMap fun e =>
    (mentionsOf (kept e.2 1)).map fun m => ⟨m.id, e.1, e.2.index, m.locator⟩

end SlidePress.Citation
