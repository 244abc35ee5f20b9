import SlidePress.Yaml.Cursor

/-! # Tags

The tag of a node says what its value is built as. A plain scalar without a tag gets one from its
text: the words for truth values and null, integers in several bases, doubles with a point, and
timestamps; every other text stands for itself. In base sixty the digits after the first are
separated by colons.

* `Tag.ofUri`: the tag with a given name.
* `Tag.ofPlain`: the tag of a plain scalar. -/

namespace SlidePress.Yaml

/-- What a node's value is built as. -/
inductive Tag where
  | null
  | bool
  | int
  | float
  | str
  | binary
  | timestamp
  | seq
  | map
  | set
  | omap
  | pairs
  /-- The key of a mapping to be merged in. -/
  | merge
  /-- The key of the value that stands for a whole mapping. -/
  | value
  /-- A tag nothing is built for. -/
  | unknown
  deriving DecidableEq, Repr, Inhabited

namespace Tag

/-- The names of the tags, behind the common beginning. -/
def names : List (String × Tag) :=
  [("null", null), ("bool", bool), ("int", int), ("float", float), ("str", str),
    ("binary", binary), ("timestamp", timestamp), ("seq", seq), ("map", map), ("set", set),
    ("omap", omap), ("pairs", pairs), ("merge", merge), ("value", value)]

/-- The beginning that the names of all known tags have. -/
def base : String := "tag:yaml.org,2002:"

/-- The tag with a given full name. -/
def ofUri (uri : String) : Tag :=
  ((names.map fun (n, t) => (base ++ n, t)).lookup uri).getD unknown

/-- A tag of a collection: a value of it is there before its content is. -/
def isCollection : Tag → Bool
  | seq | map | set | omap | pairs => true
  | _ => false

/-! ### Plain scalars -/

/-- A text without a sign in front. -/
def unsigned : List Char → List Char
  | '+' :: r => r
  | '-' :: r => r
  | cs => cs

/-- A digit, or an underscore between digits. -/
def isDigitOrGap (c : Char) : Bool := c.isDigit || c == '_'

/-- The words for truth values. -/
def boolWords : List String :=
  ["yes", "Yes", "YES", "no", "No", "NO", "true", "True", "TRUE", "false", "False", "FALSE", "on",
    "On", "ON", "off", "Off", "OFF"]

/-- One or two digits below sixty, preceded by a colon, any number of times: what follows them. -/
def sixties : List Char → List Char
  | ':' :: a :: b :: r =>
    if '0' ≤ a ∧ a ≤ '5' ∧ b.isDigit then sixties r
    else if a.isDigit then sixties (b :: r)
    else ':' :: a :: b :: r
  | [':', a] => if a.isDigit then [] else [':', a]
  | cs => cs

/-- Digits and underscores, of which the first is a digit other than zero, and the rest. -/
def leadingNumber? : List Char → Option (List Char)
  | c :: r => if '1' ≤ c ∧ c ≤ '9' then some (r.dropWhile isDigitOrGap) else none
  | [] => none

/-- An integer in any base. -/
def isInt (cs : List Char) : Bool :=
  match unsigned cs with
  | ['0'] => true
  | '0' :: 'b' :: c :: r => (c :: r).all fun a => a == '0' || a == '1' || a == '_'
  | '0' :: 'x' :: c :: r => (c :: r).all fun a =>
      a.isDigit || ('a' ≤ a && a ≤ 'f') || ('A' ≤ a && a ≤ 'F') || a == '_'
  | '0' :: c :: r => (c :: r).all fun a => ('0' ≤ a && a ≤ '7') || a == '_'
  | ds =>
    match leadingNumber? ds with
    | some rest => rest.isEmpty || (rest.head? == some ':' && (sixties rest).isEmpty)
    | none => false

/-- Nothing, or an exponent with its sign. -/
def isExponent : List Char → Bool
  | [] => true
  | e :: s :: r => (e == 'e' || e == 'E') && (s == '+' || s == '-') && !r.isEmpty && r.all Char.isDigit
  | _ => false

/-- The names of the infinities. -/
def infiniteWords : List String := [".inf", ".Inf", ".INF"]

/-- The names of the value that is no number. -/
def nanWords : List String := [".nan", ".NaN", ".NAN"]

/-- A double: a point is required, and an exponent needs a sign. -/
def isFloat (cs : List Char) : Bool :=
  let body := unsigned cs
  let pointed := match body with
    | c :: _ =>
      c.isDigit && (match body.dropWhile isDigitOrGap with
        | '.' :: r => isExponent (r.dropWhile isDigitOrGap)
        | rest => rest.head? == some ':' && (match sixties rest with
          | '.' :: r => r.all isDigitOrGap
          | _ => false))
    | [] => false
  let bare := match cs with
    | '.' :: c :: r => c.isDigit && isExponent (r.dropWhile isDigitOrGap)
    | _ => false
  pointed || bare || infiniteWords.contains (String.ofList body) ||
    nanWords.contains (String.ofList cs)

/-- The parts of a written timestamp. -/
structure TimeParts where
  year : List Char
  month : List Char
  day : List Char
  clock : Option (List Char × List Char × List Char)
  fraction : List Char
  /-- `Z`, or a sign with hours and minutes. -/
  zone : Option (Option (Bool × List Char × List Char))

/-- Between `least` and `most` digits, as many as there are. -/
def someDigits (least most : Nat) (cs : List Char) : Option (List Char × List Char) :=
  let ds := (cs.take most).takeWhile Char.isDigit
  if least ≤ ds.length then some (ds, cs.drop ds.length) else none

/-- A given character, and the rest. -/
def expect (a : Char) : List Char → Option (List Char)
  | c :: r => if c = a then some r else none
  | [] => none

/-- The offset at the end of a timestamp, if there is one. -/
def zoneOf? (cs : List Char) : Option (Option (Option (Bool × List Char × List Char))) :=
  match cs.dropWhile fun c => c == ' ' || c == '\t' with
  | [] => if cs.isEmpty then some none else none
  | ['Z'] => some (some none)
  | s :: r =>
    if s == '+' || s == '-' then do
      let (h, r) ← someDigits 1 2 r
      match r with
      | [] => some (some (some (s == '-', h, [])))
      | ':' :: r => do
        let (m, r) ← someDigits 2 2 r
        if r.isEmpty then some (some (some (s == '-', h, m))) else none
      | _ => none
    else none

/-- The parts of a timestamp; a date alone may have months and days of one digit. -/
def timeParts? (cs : List Char) : Option TimeParts := do
  let (y, r) ← someDigits 4 4 cs
  let r ← expect '-' r
  let (m, r) ← someDigits 1 2 r
  let r ← expect '-' r
  let (d, r) ← someDigits 1 2 r
  match r with
  | [] => some ⟨y, m, d, none, [], none⟩
  | c :: rest =>
    let gap (a : Char) : Bool := a == ' ' || a == '\t'
    let r ← if c == 'T' || c == 't' then some rest
      else if gap c then some (rest.dropWhile gap) else none
    let (h, r) ← someDigits 1 2 r
    let r ← expect ':' r
    let (mi, r) ← someDigits 2 2 r
    let r ← expect ':' r
    let (s, r) ← someDigits 2 2 r
    let (f, r) := match r with
      | '.' :: r => (r.takeWhile Char.isDigit, r.dropWhile Char.isDigit)
      | r => ([], r)
    let zone ← zoneOf? r
    some ⟨y, m, d, some (h, mi, s), f, zone⟩

/-- A timestamp; a date alone needs two digits for month and day. -/
def isTimestamp (cs : List Char) : Bool :=
  match timeParts? cs with
  | some p => p.clock.isSome || (p.month.length == 2 && p.day.length == 2)
  | none => false

/-- The tag of a plain scalar with this text. -/
def ofPlain (s : String) : Tag :=
  let cs := s.toList
  if boolWords.contains s then bool
  else if isFloat cs then float
  else if isInt cs then int
  else if s == "<<" then merge
  else if s == "" || s == "~" || s == "null" || s == "Null" || s == "NULL" then null
  else if isTimestamp cs then timestamp
  else if s == "=" then value
  else str

example : ofPlain "0o17" = str ∧ ofPlain "017" = int ∧ ofPlain "1:30" = int := by decide +kernel

end Tag

end SlidePress.Yaml
