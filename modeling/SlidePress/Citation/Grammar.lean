import SlidePress.Text.Blank
import SlidePress.Text.Word

/-! # Groups of citations in a text

Citations stand in a text as groups in brackets, such as `[@smith; @doe, p. 4]`. A group holds one
or more mentions with semicolons between them; a mention is an at sign, the name of a reference,
and, behind a comma, where to look in it. Blanks may stand in front of every mention but the first.

A group is read by an automaton that goes over the text once; a text is taken apart into its groups
and the characters between them, from left to right.

* `segments`: the groups of a text and the characters between them.
* `written_segments`: together they are the text, so nothing is lost. -/

namespace SlidePress.Citation

/-- A reference as it is mentioned in a group. -/
structure Mention where
  id : String
  /-- Where to look in the reference. -/
  locator : Option String
  deriving DecidableEq, Repr, Inhabited

/-- A character of the name of a reference: a word character or a hyphen. -/
def isIdChar (c : Char) : Bool := Text.isWord c || c == '-'

/-- A text without the blanks around it, none if nothing is left. -/
def locatorOf (cs : List Char) : Option String :=
  let t := Text.stripChars cs
  if t.isEmpty then none else some (String.ofList t)

/-- Where the reader of a group stands. -/
inductive Place where
  /-- In front of a mention; `blanks` tells whether blanks may come. -/
  | before (blanks : Bool)
  /-- In the name of a reference, last character first. -/
  | inId (id : List Char)
  /-- Behind the comma, with the name and what has been read since, last character first. -/
  | inLocator (id place : List Char)
  deriving DecidableEq, Repr

/-- The mention read at a place, where one may end there. -/
def Place.mention? : Place → Option Mention
  | before _ => none
  | inId id => if id.isEmpty then none else some ⟨String.ofList id.reverse, none⟩
  | inLocator id place =>
    if place.isEmpty then none
    else some ⟨String.ofList id.reverse, locatorOf place.reverse⟩

/-- The place behind one more character that ends neither the mention nor the group. -/
def Place.step? (c : Char) : Place → Option Place
  | before blanks =>
    if c = '@' then some (inId [])
    else if blanks && Text.isBlank c then some (before true)
    else none
  | inId id =>
    if isIdChar c then some (inId (c :: id))
    else if c = ',' ∧ id ≠ [] then some (inLocator id [])
    else none
  | inLocator id place => some (inLocator id (c :: place))

/-- The mentions of a group from a place in it on, and the text behind the group; `got` holds the
mentions read before, last one first. -/
def readFrom (p : Place) (got : List Mention) : List Char → Option (List Mention × List Char)
  | [] => none
  | c :: r =>
    if c = ']' then p.mention?.map fun m => ((m :: got).reverse, r)
    else if c = ';' then
      match p.mention? with
      | some m => readFrom (.before true) (m :: got) r
      | none => none
    else
      match p.step? c with
      | some p => readFrom p got r
      | none => none

/-- The mentions of a group whose opening bracket has been read, and the text behind it. -/
def readGroup (cs : List Char) : Option (List Mention × List Char) := readFrom (.before false) [] cs

/-- A part of a text. -/
inductive Segment where
  | char (c : Char)
  /-- A group as it is written, brackets included, and its mentions. -/
  | group (written : List Char) (mentions : List Mention)
  deriving DecidableEq, Repr

/-- A part as it stands in the text. -/
def Segment.written : Segment → List Char
  | char c => [c]
  | group cs _ => cs

/-- The parts of a text, whose first `skip` characters belong to a part that has been read. -/
def segmentsFrom (skip : Nat) : List Char → List Segment
  | [] => []
  | c :: r =>
    match skip with
    | skip + 1 => segmentsFrom skip r
    | 0 =>
      match if c = '[' then readGroup r else none with
      | some (ms, rest) =>
        let length := r.length - rest.length
        .group (c :: r.take length) ms :: segmentsFrom length r
      | none => .char c :: segmentsFrom 0 r

/-- The groups of a text and the characters between them, from left to right. -/
def segments (cs : List Char) : List Segment := segmentsFrom 0 cs

theorem written_segmentsFrom (skip : Nat) (cs : List Char) :
    (segmentsFrom skip cs).flatMap Segment.written = cs.drop skip := by
  induction cs generalizing skip with
  | nil => simp [segmentsFrom]
  | cons c r ih =>
    cases skip with
    | succ skip => simpa [segmentsFrom] using ih skip
    | zero =>
      simp only [segmentsFrom]
      split <;> simp [Segment.written, ih]

/-- The parts of a text are the text. -/
theorem written_segments (cs : List Char) : (segments cs).flatMap Segment.written = cs := by
  simpa [segments] using written_segmentsFrom 0 cs

/-- What follows a group is an end of the text. -/
theorem isSuffix_of_readFrom (p : Place) (got : List Mention) (cs : List Char) (ms : List Mention)
    (rest : List Char) (h : readFrom p got cs = some (ms, rest)) : rest <:+ cs := by
  induction cs generalizing p got with
  | nil => simp [readFrom] at h
  | cons c r ih =>
    unfold readFrom at h
    split at h
    · obtain ⟨m, -, hm⟩ := Option.map_eq_some_iff.1 h
      cases hm
      exact List.suffix_cons _ _
    · split at h
      · split at h
        · exact (ih _ _ h).trans (List.suffix_cons c r)
        · cases h
      · split at h
        · exact (ih _ _ h).trans (List.suffix_cons c r)
        · cases h

end SlidePress.Citation
