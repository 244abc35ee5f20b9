import SlidePress.Citation.Grammar
import SlidePress.Deck.Model

/-! # The citations of a deck

A text is searched for groups of citations. The content of a slide is searched through all lists and
mappings in it; a text that consists of an at sign and a name alone cites that reference too, as the
source of a quotation does. Behind its content come the notes of a slide.

* `Citation.inText`: the citations of a text, with the places of their groups.
* `Slide.citations`, `Deck.citations`: the first citation of each reference.
* `Citation.ids`: the names of cited references, each once. -/

namespace SlidePress

/-- A citation of a reference. -/
structure Citation where
  id : String
  /-- Where the text that holds the citation begins, and where it ends. -/
  start : Nat
  stop : Nat
  /-- Where to look in the reference. -/
  locator : Option String
  deriving DecidableEq, Repr, Inhabited

namespace Citation

/-- The citations of some parts of a text, the first of which begins at `start`. -/
def ofSegments (start : Nat) : List Segment → List Citation
  | [] => []
  | .char _ :: r => ofSegments (start + 1) r
  | .group cs ms :: r =>
    let stop := start + cs.length
    ms.map (fun m => ⟨m.id, start, stop, m.locator⟩) ++ ofSegments stop r

/-- The citations in the groups of a text. -/
def inText (s : String) : List Citation := ofSegments 0 (segments s.toList)

/-- A text without a line feed at its end. -/
def withoutLineFeed : List Char → List Char
  | [] => []
  | ['\n'] => []
  | c :: r => c :: withoutLineFeed r

/-- The reference that a text names if it is an at sign and a name alone; a line feed may follow. -/
def wholeId? (cs : List Char) : Option String :=
  match cs with
  | '@' :: r =>
    let id := withoutLineFeed r
    if !id.isEmpty && id.all isIdChar then some (String.ofList id) else none
  | _ => none

/-- The citations of a text of a slide's content. -/
def inField (s : String) : List Citation :=
  match wholeId? s.toList with
  | some id => [⟨id, 0, s.length, none⟩]
  | none => inText s

mutual

/-- The citations of a value, through all lists and mappings in it. -/
def inValue : Value → List Citation
  | .str s => inField s
  | .list xs => inValues xs
  | .map es => inEntries es
  | _ => []
termination_by structural v => v

/-- The citations of values, in order. -/
def inValues : List Value → List Citation
  | [] => []
  | x :: xs => inValue x ++ inValues xs
termination_by structural vs => vs

/-- The citations of the values of entries, in order. -/
def inEntries : List (Value × Value) → List Citation
  | [] => []
  | (_, v) :: es => inValue v ++ inEntries es
termination_by structural es => es

end

/-- The citations that come first among those of the same reference; `seen` names references cited
before. -/
def firstsAfter (seen : List String) : List Citation → List Citation
  | [] => []
  | c :: cs =>
    if seen.contains c.id then firstsAfter seen cs else c :: firstsAfter (c.id :: seen) cs

/-- The first citation of each reference. -/
def firsts (cs : List Citation) : List Citation := firstsAfter [] cs

/-- The names of cited references, each once, in the order of first use. -/
def ids (cs : List Citation) : List String := (cs.map Citation.id).eraseDups

theorem inEntries_cons (k v : Value) (es : Entries) :
    inEntries ((k, v) :: es) = inValue v ++ inEntries es := by
  simp [inEntries]

end Citation

mutual

/-- Whether lists and mappings are nested in themselves. -/
def Value.nests : Value → Bool
  | .again _ _ => true
  | .list xs => Value.nestsAny xs
  | .map es => Value.nestsEntries es
  | _ => false
termination_by structural v => v

/-- Whether one of some values is nested in itself. -/
def Value.nestsAny : List Value → Bool
  | [] => false
  | x :: xs => Value.nests x || Value.nestsAny xs
termination_by structural vs => vs

/-- Whether the value of one of some entries is nested in itself. -/
def Value.nestsEntries : List (Value × Value) → Bool
  | [] => false
  | (_, v) :: es => Value.nests v || Value.nestsEntries es
termination_by structural es => es

end

/-- The citations of a slide's content and then of its notes, the first of each reference. -/
def Slide.citations (s : Slide) : List Citation :=
  Citation.firsts (Citation.inEntries s.content ++
    match s.notes with
    | some notes => Citation.inText notes
    | none => [])

/-- The citations of a deck, the first of each reference. -/
def Deck.citations (d : Deck) : List Citation :=
  Citation.firsts (d.slides.flatMap Slide.citations)

end SlidePress
