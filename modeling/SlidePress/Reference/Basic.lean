import SlidePress.Number.Read
import SlidePress.Value.Sequence
import SlidePress.Value.Text

/-! # References

A reference is a bibliographic item as reference managers export it: a mapping with fields such as
`author`, `issued` and `title`, each of which may hold anything or be missing. What is written from
it depends on the kinds of what is there, and some kinds make the writing fail.

* `Reference.authors`, `Reference.year`, `Reference.identifier?`: what is known about a reference.
* `Reference.fullEntry`: its entry in a bibliography.
* `Reference.templateEntry`: the data that templates are given for it. -/

namespace SlidePress

/-- A bibliographic item. -/
structure Reference where
  fields : Entries
  deriving Inhabited

namespace Reference

/-- A field, null where it is missing. -/
def field (r : Reference) (name : String) : Value := r.fields.getD name

/-! ### The year -/

/-- What a value holds at a name. -/
def named? (name : String) : Value → Option Value
  | .map es => Entries.get? es name
  | _ => none

/-- What a value holds first, if it is a sequence or has something at position zero. -/
def first? : Value → Option Value
  | .map es => Entries.find? es (.int 0)
  | v => v.at? 0

/-- A value as a whole number; one that stands for no number is zero. -/
def wholeNumber : Value → Attempt Int
  | .int n => .ok n
  | .bool b => .ok (if b then 1 else 0)
  | .float x =>
    if x.isInf then .error .overflow else .ok ((Number.truncate? x).getD 0)
  | .str s => .ok ((Number.readInt 10 s.toList).getD 0)
  | _ => .ok 0

/-- The year in which an item was issued, zero if it is not known. -/
def year (r : Reference) : Attempt Int :=
  match ((named? "date-parts" (r.field "issued")).bind first?).bind first? with
  | some v => wholeNumber v
  | none => .ok 0

/-! ### The identifier -/

/-- A field that counts as true, behind its name. -/
def labelled? (r : Reference) (name : String) : Option String :=
  if (r.field name).truthy then some (name ++ ": " ++ (r.field name).text) else none

/-- How to find an item: its number in the medical index or else its digital identifier. -/
def identifier? (r : Reference) : Option String := (r.labelled? "PMID").or (r.labelled? "DOI")

/-! ### The authors -/

/-- An author of an item. -/
abbrev Author := Entries

/-- The family name of an author. -/
def Author.family (a : Author) : Value := a.getD "family"

/-- The authors among some values: the mappings with a family name. -/
def authorsAmong : List Value → Attempt (List Author)
  | [] => .ok []
  | .map es :: vs => do
    let rest ← authorsAmong vs
    return if (Author.family es).truthy then es :: rest else rest
  | _ :: _ => .error .noAttribute

/-- The authors with a family name. -/
def authors (r : Reference) : Attempt (List Author) :=
  let v := r.field "author"
  if v.truthy then
    match v.items? with
    | some vs => authorsAmong vs
    | none => .error .wrongType
  else .ok []

/-- The family name of the first author, empty if there is none. -/
def firstFamily (r : Reference) : Attempt Value := do
  match ← r.authors with
  | a :: _ => return a.family
  | [] => return .str ""

/-- A character of the Japanese scripts. -/
def isJapaneseChar (c : Char) : Bool :=
  let n := c.toNat
  (0x3040 ≤ n && n ≤ 0x30FF) || (0x4E00 ≤ n && n ≤ 0x9FAF)

/-- Whether authors are named in the Japanese way: by the family name of the first. -/
def isJapanese : List Author → Attempt Bool
  | [] => .ok false
  | a :: _ =>
    match a.family with
    | .str s => .ok (s.toList.any isJapaneseChar)
    | _ => .error .wrongType

/-- The first item of a given name, with a point. -/
def abbreviated (given : Value) : Attempt String :=
  match given with
  | .map es =>
    match Entries.find? es (.int 0) with
    | some v => .ok (v.text ++ ".")
    | none => .error .noKey
  | v =>
    match v.at? 0 with
    | some v => .ok (v.text ++ ".")
    | none => .error .wrongType

namespace Author

/-- The given name of an author. -/
def given (a : Author) : Value := a.getD "given"

/-- The given name cut down to its initial, empty if there is none. -/
def initial (a : Author) : Attempt String :=
  if a.given.truthy then abbreviated a.given else .ok ""

/-- Family name, comma and initial. -/
def withInitial (a : Author) : Attempt String := do
  return a.family.text ++ ", " ++ (← a.initial)

/-- Family name and given name, as they are written together. -/
def together (a : Author) : String :=
  a.family.text ++ ((a.get? "given").getD (.str "")).text

/-- The name that templates are given: the family name, with the initial if there is one. -/
def templateName (a : Author) : Attempt Value :=
  if a.given.truthy then do return .str (a.family.text ++ ", " ++ (← abbreviated a.given))
  else .ok a.family

end Author

/-- The names of two or more authors, the last of them behind an ampersand. -/
def namedList : List Author → Attempt (List String)
  | [] => .ok []
  | [a] => do return ["& " ++ (← a.withInitial)]
  | a :: as => do return (← a.withInitial) :: (← namedList as)

/-- All authors, in the Japanese or in the English way. -/
def allAuthors (as : List Author) (japanese : Bool) : Attempt String :=
  match as with
  | [] => .ok "Unknown"
  | as =>
    if japanese then .ok (", ".intercalate (as.map Author.together))
    else
      match as with
      | [a] => a.withInitial
      | as => do return ", ".intercalate (← namedList as)

/-! ### Entries -/

/-- Where in a journal an item stands: volume and issue, and the pages. -/
def location (r : Reference) : String :=
  let volume := r.field "volume"
  let issue := r.field "issue"
  let page := r.field "page"
  let place := if !volume.truthy then ""
    else if issue.truthy then volume.text ++ "(" ++ issue.text ++ ")"
    else volume.text
  if !page.truthy then place
  else if place.isEmpty then page.text
  else place ++ ", " ++ page.text

/-- The journal of an item and the place in it; Japanese journals are not set in italics. -/
def journal? (r : Reference) (japanese : Bool) : Option String :=
  let title := r.field "container-title"
  if title.truthy then
    let name := if japanese then title.text else "*" ++ title.text ++ "*"
    let place := r.location
    some (if place.isEmpty then name ++ "." else name ++ ", " ++ place ++ ".")
  else none

/-- The title of an item, with a point. -/
def title? (r : Reference) : Option String :=
  if (r.field "title").truthy then some ((r.field "title").text ++ ".") else none

/-- The entry of an item in a bibliography: authors, year, title, journal and identifier. -/
def fullEntry (r : Reference) : Attempt String := do
  let as ← r.authors
  let japanese ← isJapanese as
  let names ← allAuthors as japanese
  let year ← r.year
  return " ".intercalate ([names, "(" ++ toString year ++ ")."] ++
    [r.title?, r.journal? japanese, r.identifier?].filterMap id)

/-- The fields that templates are given for an item besides its name and title; what is null is
left out. -/
def optionalFields (names : List Value) (year : Int) (r : Reference) : List (String × Value) :=
  [("authors", if names.isEmpty then .null else .list names),
    ("year", if year = 0 then .null else .int year),
    ("journal", r.field "container-title"), ("volume", r.field "volume"),
    ("pages", r.field "page"), ("doi", r.field "DOI"), ("url", r.field "URL")].filter fun p =>
      match p.2 with
      | .null => false
      | _ => true

/-- The data that templates are given for an item. -/
def templateEntry (r : Reference) : Attempt Entries := do
  let names ← (← r.authors).mapM Author.templateName
  let key ← Attempt.ofOption .noKey (r.fields.get? "id")
  let year ← r.year
  return Entries.ofNames ([("id", key), ("title", (r.fields.get? "title").getD (.str ""))] ++
    optionalFields names year r)

theorem authorsAmong_cons_map (es : Entries) (vs : List Value) (as : List Author)
    (h : authorsAmong vs = .ok as) :
    authorsAmong (.map es :: vs) =
      .ok (if (Author.family es).truthy then es :: as else as) := by
  simp only [authorsAmong, h, bind, Except.bind, pure, Except.pure]

/-- Every author has a family name. -/
theorem truthy_family_of_mem (vs : List Value) (as : List Author) (h : authorsAmong vs = .ok as) :
    ∀ a ∈ as, (Author.family a).truthy = true := by
  induction vs generalizing as with
  | nil => cases h; simp
  | cons v vs ih =>
    cases v with
    | map es =>
      simp only [authorsAmong, bind, Except.bind] at h
      split at h
      · cases h
      · rename_i rest hrest
        simp only [pure, Except.pure, Except.ok.injEq] at h
        subst h
        intro a ha
        split at ha
        · rename_i hes
          rcases List.mem_cons.1 ha with rfl | ha
          · exact hes
          · exact ih rest hrest a ha
        · exact ih rest hrest a ha
    | _ => simp [authorsAmong] at h

end Reference

end SlidePress
