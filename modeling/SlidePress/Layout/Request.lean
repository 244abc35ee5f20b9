import SlidePress.Template.Access

/-! # What a template asks for

The template of a slide may ask for icons and for citations. What it is given at once is a token;
the request behind the token is recorded and answered later. Icons, citations and texts to expand
are numbered separately, each from zero, and the tokens of the three kinds begin differently.

* `Requests.addIcon`, `Requests.addCite`, `Requests.addExpand`: recording a request.
* `Requests.helpers`: the objects through which a template asks.
* `Requests.fill`: a text with the answers in place of the tokens. -/

namespace SlidePress

open Template (Arguments)

/-- A request for an icon; its options are a mapping or null. -/
structure IconRequest where
  name : String
  options : Value
  deriving Inhabited

/-- The requests of one slide, of each kind in the order in which they were made. -/
structure Requests where
  icons : List IconRequest
  cites : List String
  expands : List String
  deriving Inhabited

namespace Requests

/-- No requests. -/
def empty : Requests := ⟨[], [], []⟩

/-- The token of the icon with a number. -/
def iconToken (n : Nat) : String := "___ICON_PLACEHOLDER_" ++ toString n ++ "___"

/-- The token of the citation with a number. -/
def citeToken (n : Nat) : String := "___REFS_CITE_PLACEHOLDER_" ++ toString n ++ "___"

/-- The token of the text to expand with a number. -/
def expandToken (n : Nat) : String := "___REFS_EXPAND_PLACEHOLDER_" ++ toString n ++ "___"

/-- Records a request for an icon. -/
def addIcon (r : Requests) (icon : IconRequest) : String × Requests :=
  (iconToken r.icons.length, { r with icons := r.icons ++ [icon] })

/-- Records a request for the citation of a reference. -/
def addCite (r : Requests) (id : String) : String × Requests :=
  (citeToken r.cites.length, { r with cites := r.cites ++ [id] })

/-- Records a request for a text with its citations expanded. -/
def addExpand (r : Requests) (s : String) : String × Requests :=
  (expandToken r.expands.length, { r with expands := r.expands ++ [s] })

/-! ### Asking -/

/-- The entries of a pair. -/
def pairOf (v : Value) : Attempt (Value × Value) := do
  match ← Attempt.ofOption .wrongType v.items? with
  | [k, x] => if k.hashable then return (k, x) else throw .wrongType
  | _ => throw .badValue

/-- The mapping that options are taken as: a mapping, or pairs of keys and values. -/
def optionsOf (v : Value) : Attempt Entries := do
  match v with
  | .map es => return es
  | v => return Entries.ofPairs (← (← Attempt.ofOption .wrongType v.items?).mapM pairOf)

/-- The options of an icon with further ones beside them, null if there are none. -/
def allOptions (options : Value) (further : Entries) : Attempt Value := do
  if further.isEmpty then
    if options.truthy then return .map (← optionsOf options) else return .null
  else
    match options.truthy, options with
    | false, _ => return .map (Entries.update [] further)
    | true, .map es => return .map (Entries.update es further)
    | true, _ => throw .wrongType

/-- The icon that the arguments of a call ask for; arguments with other names are options. -/
def iconOf (a : Arguments) : Attempt IconRequest := do
  let (own, further) := a.named.partition fun p => [ "name", "options"].contains p.1
  let vs ← (Arguments.mk a.positional own).bind [ "name", "options"] 1
  let options ← allOptions ((vs.getD 1 none).getD .null) (Entries.ofNames further)
  return ⟨((vs.getD 0 none).getD .null).text, options⟩

/-- The one argument of a call. -/
def argument (name : String) (a : Arguments) : Attempt Value := do
  let vs ← a.bind [name] 1
  return (vs.getD 0 none).getD .null

/-- The text that is to be expanded for a value; null has none. -/
def textToExpand : Value → String
  | .null => ""
  | v => v.text

/-- What a template is given for a request. -/
def answered (p : String × Requests) : Value × Requests := (.str p.1, p.2)

/-- Calls an operation of a helper object. -/
def call (object operation : String) (a : Arguments) (r : Requests) : Attempt (Value × Requests) := do
  match object, operation with
  | "icons", "render" => return answered (r.addIcon (← iconOf a))
  | "refs", "cite" => return answered (r.addCite (← argument "ref_id" a).text)
  | "refs", "expand" => return answered (r.addExpand (textToExpand (← argument "text" a)))
  | _, _ => throw .noAttribute

/-- The operations of a helper object. -/
def operations : String → List String
  | "icons" => [ "render"]
  | "refs" => [ "cite", "expand"]
  | _ => []

/-- The objects through which a template asks for icons and citations. -/
def helpers : Template.Host Requests := ⟨operations, call⟩

/-! ### Answering -/

/-- A text with answers in place of the tokens of one kind, the first of which has the number
`n`. -/
def fillFrom (token : Nat → String) : Nat → List String → String → String
  | _, [], s => s
  | n, a :: as, s => fillFrom token (n + 1) as (Text.replace (token n) a s)

/-- A text with the answers in place of the tokens. A text that was expanded may hold tokens of the
other kinds, and a citation tokens of icons, so these are filled in later. -/
def fill (icons cites expands : List String) (s : String) : String :=
  fillFrom iconToken 0 icons (fillFrom citeToken 0 cites (fillFrom expandToken 0 expands s))

@[simp] theorem fillFrom_nil (token : Nat → String) (n : Nat) (s : String) :
    fillFrom token n [] s = s := rfl

@[simp] theorem icons_addIcon (r : Requests) (icon : IconRequest) :
    (r.addIcon icon).2.icons = r.icons ++ [icon] := rfl

@[simp] theorem cites_addCite (r : Requests) (id : String) :
    (r.addCite id).2.cites = r.cites ++ [id] := rfl

@[simp] theorem expands_addExpand (r : Requests) (s : String) :
    (r.addExpand s).2.expands = r.expands ++ [s] := rfl

end Requests

end SlidePress
