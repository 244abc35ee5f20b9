import SlidePress.Citation.Inline
import SlidePress.Deck.Model
import SlidePress.Layout.Course
import SlidePress.Registry.Basic
import SlidePress.Template.Eval

/-! # Laying out slides

A slide is laid out by its template. The content is checked first; then the template runs and leaves
a draft with tokens and the requests behind them. The icons are fetched, then the citations, then
the texts are expanded, each kind together, and the answers take the places of the tokens. A raw
slide is its own text.

* `Press.draft`: the draft of a slide and its requests.
* `Requests.resolveWith`: the draft with the answers to the requests.
* `Press.layOut`: a slide laid out. -/

namespace SlidePress

/-- What slides are laid out with: the templates, and the answers to requests. -/
structure Press where
  templates : Registry
  icon : IconRequest → Ending SlideError String
  cite : String → Ending SlideError String
  expand : String → Ending SlideError String

/-- How a call is answered. -/
def Press.answer (press : Press) : Call → Ending SlideError String
  | .icon r => press.icon r
  | .cite id => press.cite id
  | .expand s => press.expand s

/-- The three kinds of requests. -/
inductive RequestKind where
  | icon
  | cite
  | expand
  deriving DecidableEq, Repr

/-- How many steps the requests of a slide take, by their kind and number. -/
abbrev Pace := RequestKind → Nat → Nat

/-- Every request takes one step. -/
def Pace.even : Pace := fun _ _ => 1

/-- Where a slide stands in its deck. -/
structure SlidePlace where
  info : DeckInfo
  index : Nat
  total : Nat
  deriving Inhabited

namespace SlidePlace

/-- A text that may be missing. -/
def textOrNull : Option String → Value
  | some s => .str s
  | none => .null

/-- The variables that a template sees for some content. -/
def scope (place : SlidePlace) (content : Entries) : Template.Scope :=
  [("content", .map content),
    ("meta", .map (Entries.ofNames [("title", .str place.info.title),
      ("author", textOrNull place.info.author), ("theme", .str place.info.theme)])),
    ("slide", .map (Entries.ofNames
      [("index", .int place.index), ("total", .int place.total)])),
    ("icons", .ref (.helper "icons")), ("refs", .ref (.helper "refs"))]

end SlidePlace

namespace Requests

/-- The calls that the requests of one kind lead to, in their order. -/
def calls (r : Requests) : RequestKind → List Call
  | .icon => r.icons.map .icon
  | .cite => r.cites.map .cite
  | .expand => r.expands.map .expand

/-- Calls of the three kinds are made, and their answers take the places of the tokens. -/
def resolveWith (pace : Pace) (asked : RequestKind → List (Call × Ending SlideError String))
    (draft : String) : Course String := do
  let icons ← Course.round (pace .icon) (asked .icon)
  let cites ← Course.round (pace .cite) (asked .cite)
  let expands ← Course.round (pace .expand) (asked .expand)
  return fill icons cites expands draft

/-- The requests of a slide, answered in their order. -/
def resolve (press : Press) (pace : Pace) (r : Requests) (draft : String) : Course String :=
  resolveWith pace (fun kind => (r.calls kind).map fun c => (c, press.answer c)) draft

end Requests

namespace Press

/-- What slides are laid out with, where icons come from one that answers at once and citations from
a source of references. -/
def of (templates : Registry) (icon : IconRequest → Ending IconError String)
    (style : CitationStyle) (source : ReferenceSource) : Press :=
  let halt {ε α : Type} (f : ε → SlideError) (e : Ending ε α) : Ending SlideError α :=
    e.mapError fun
      | .failed e => .failed (f e)
      | .endless => .endless
  ⟨templates, fun r => halt .icon (icon r),
    fun id => halt .reference (Ending.ofExcept (style.cite source id)),
    fun s => halt .reference (Ending.ofExcept (style.expand source s))⟩

/-- The text that a template leaves for some content, and its requests. -/
def run (place : SlidePlace) (content : Entries) (output : String) :
    Except SlideError (String × Requests) :=
  (Template.renderWith .slide Requests.helpers (place.scope content) Requests.empty
    output).mapError SlideError.ofFault

/-- The draft of a slide by its template, and its requests. -/
def draft (press : Press) (place : SlidePlace) (s : Slide) :
    Except SlideError (String × Requests) :=
  match press.templates.get? s.template with
  | none => .error (.noTemplate s.template place.index)
  | some t =>
    match press.templates.validate s.template (.map s.content) with
    | .error f => .error (.fault f)
    | .ok verdict =>
      if verdict.valid then run place s.content t.output
      else .error (.unfit s.template verdict.errors place.index)

/-- A body with the class of the slide in front, without the blanks around it. -/
def finished (cssClass : Option String) (body : String) : String :=
  let name := cssClass.getD ""
  Text.strip (if name.isEmpty then body else "<!-- _class: " ++ name ++ " -->\n" ++ body)

/-- A slide laid out. -/
def layOut (press : Press) (pace : Pace) (place : SlidePlace) (s : Slide) : Course String :=
  if s.isRaw then Course.done (s.raw.getD "")
  else do
    let (draft, requests) ← Course.ofExcept (press.draft place s)
    return finished s.cssClass (← requests.resolve press pace draft)

/-- A raw slide is its own text, and nothing is called for it. -/
theorem layOut_of_isRaw (press : Press) (pace : Pace) (place : SlidePlace) (s : Slide)
    (h : s.isRaw = true) : press.layOut pace place s = Course.done (s.raw.getD "") := by
  simp [layOut, h]

end Press

end SlidePress
