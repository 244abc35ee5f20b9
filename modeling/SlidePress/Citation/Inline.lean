import SlidePress.Citation.Grammar
import SlidePress.Reference.Source
import SlidePress.Text.Search
import SlidePress.Value.Order

/-! # Citations in running text

A citation in running text stands in parentheses: the authors, the year and the identifier of the
reference. A reference that the source does not know is cited by its name in brackets. In a text,
every group of citations is replaced by the citations of its mentions; all else stays as it is.

* `CitationStyle.inline`: the citation of a reference.
* `CitationStyle.cite`, `CitationStyle.entry`: the citation or entry of a reference by its name.
* `CitationStyle.expand`: a text with its groups replaced. -/

namespace SlidePress

/-- How citations are written. -/
structure CitationStyle where
  /-- The most authors that are all named. -/
  maxAuthors : Value
  /-- What stands for the authors that are not named. -/
  etAl : String
  /-- The same for Japanese authors. -/
  etAlJa : String
  /-- What stands between Japanese authors. -/
  separatorJa : String
  /-- What stands between authors and year. -/
  authorSep : String
  /-- What stands in front of the identifier. -/
  identifierSep : String
  /-- What stands between the citations of a group. -/
  multiSep : String
  deriving Inhabited

namespace CitationStyle

open Citation

/-- At most two authors are named. -/
def default : CitationStyle := ⟨.int 2, "et al.", "ほか", "・", ", ", "; ", ", "⟩

/-- A reference that is not known. -/
def unknown (id : String) : String := "[" ++ id ++ "]"

/-- Whether a number of authors may be named. -/
def allows (st : CitationStyle) (n : Nat) : Attempt Bool := do
  match ← Value.compare (.int n) st.maxAuthors with
  | some .gt => return false
  | some _ => return true
  | none => return false

/-- Some of the names of two or more authors. -/
def severalAuthors (st : CitationStyle) (as : List Reference.Author) (japanese : Bool) :
    Attempt String := do
  let families := as.map fun a => a.family.text
  if ← st.allows as.length then
    if as.all fun a => a.family.isText then
      return (if japanese then st.separatorJa else " & ").intercalate families
    else throw .wrongType
  else
    return families.headD "" ++ if japanese then st.etAlJa else " " ++ st.etAl

/-- The authors of a reference, as a citation names them. -/
def authors (st : CitationStyle) (r : Reference) : Attempt String := do
  let as ← r.authors
  let japanese ← Reference.isJapanese as
  match as with
  | [] => return "Unknown"
  | [a] => return a.family.text
  | as => st.severalAuthors as japanese

/-- The citation of a reference. -/
def inline (st : CitationStyle) (r : Reference) : Attempt String := do
  let names ← st.authors r
  let year ← r.year
  let identifier := match r.identifier? with
    | some s => st.identifierSep ++ s
    | none => ""
  return "(" ++ names ++ st.authorSep ++ toString year ++ identifier ++ ")"

/-- A name without the at signs in front of it. -/
def bareId (s : String) : String := String.ofList (s.toList.dropWhile (· == '@'))

/-- What is written for a reference given by its name. -/
def byName (write : Reference → Attempt String) (source : ReferenceSource) (s : String) :
    Lookup String := do
  let id := bareId s
  match ← source.find id with
  | some r => Lookup.ofAttempt (write r)
  | none => return unknown id

/-- The citation of a reference given by its name. -/
def cite (st : CitationStyle) (source : ReferenceSource) (s : String) : Lookup String :=
  byName st.inline source s

/-- The entry of a reference given by its name. -/
def entry (source : ReferenceSource) (s : String) : Lookup String :=
  byName Reference.fullEntry source s

/-- The citation of a mention, by what has been found. -/
def mention (st : CitationStyle) (found : List (String × Reference)) (m : Mention) :
    Attempt String :=
  match found.lookup m.id with
  | some r => st.inline r
  | none => .ok (unknown m.id)

/-- What is written for a part of a text, by what has been found. -/
def segment (st : CitationStyle) (found : List (String × Reference)) :
    Segment → Attempt (List Char)
  | .char c => .ok [c]
  | .group _ ms => do return (Text.join st.multiSep (← ms.mapM (st.mention found))).toList

/-- The names mentioned in a part of a text. -/
def mentioned : Segment → List String
  | .char _ => []
  | .group _ ms => ms.map Mention.id

/-- A text with its groups of citations replaced. The source is asked once, for each name once, and
only if there is a group. -/
def expand (st : CitationStyle) (source : ReferenceSource) (s : String) : Lookup String := do
  let parts := segments s.toList
  let ids := (parts.flatMap mentioned).eraseDups
  if ids.isEmpty then return s
  else
    let found ← source.findAll ids
    let written ← Lookup.ofAttempt (parts.mapM (st.segment found))
    return String.ofList written.flatten

end CitationStyle

end SlidePress
