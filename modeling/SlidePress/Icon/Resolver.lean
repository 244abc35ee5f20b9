import SlidePress.Icon.Registry
import SlidePress.Icon.Svg
import SlidePress.Template.Eval

/-! # Resolving icons

An icon is resolved to its markup: the name may be another name for it, the prefix says which source
it comes from, and the kind of the source says how it is written. Icons of a font or of a sprite are
written from the registry alone; the markup of the others is fetched by a loader.

* `IconError.message`: the reports.
* `IconRegistry.render`: the markup of an icon. -/

namespace SlidePress

/-- Why an icon could not be resolved. -/
inductive IconError where
  /-- A name without prefix. -/
  | noReference (name : String)
  /-- No source has the prefix. -/
  | noSource (mark : String)
  /-- The source needs a loader. -/
  | noLoader (source : IconSource)
  /-- Whoever was asked refused, with a report of its own. -/
  | refused (report : String)
  | fault (f : Fault)
  deriving DecidableEq, Repr

namespace IconError

/-- The report of an error; faults are described by `describe`. -/
def message (describe : Fault → String) : IconError → String
  | noReference name =>
    "Invalid icon reference format: \"" ++ name ++ "\". Expected format: \"prefix:name\""
  | noSource p => "Unknown icon source prefix: \"" ++ p ++ "\""
  | noLoader s => "Icon source \"" ++ s.name ++ "\" (" ++ s.kind.name ++ ") requires an SVG loader"
  | refused report => report
  | fault f => describe f

end IconError

/-- Fetches the markup of an icon of a source. -/
abbrev SvgLoader := IconSource → String → Except IconError String

/-- How an icon is to look. -/
structure IconLook where
  size : String
  color : Value
  className : String

namespace IconLook

/-- The class of an icon, with another one behind it if there is any. -/
def classFor (name : String) (extra : Value) : String :=
  let base := "icon icon-" ++ name
  if extra.truthy then base ++ " " ++ extra.text else base

/-- The style of an icon that is a character. -/
def style (l : IconLook) : String := "font-size: " ++ l.size ++ "; color: " ++ l.color.text ++ ";"

end IconLook

namespace IconRegistry

/-- The entries of the options of an icon; options that count as false are none. -/
def optionEntries (options : Value) : Attempt Entries :=
  if options.truthy then
    match options with
    | .map es => .ok es
    | _ => .error .noAttribute
  else .ok []

/-- How an icon is to look by its options and the defaults. -/
def look (r : IconRegistry) (name : String) (options : Entries) : Attempt IconLook := do
  let size := options.getD "size"
  let color ← r.resolveColor (options.getD "color")
  return ⟨if size.truthy then size.text else r.defaultSize,
    if color.truthy then color else .str r.defaultColor,
    IconLook.classFor name (options.getD "class")⟩

/-- The markup of an icon of a font whose source has no template. -/
def plainFont (name : String) (l : IconLook) : String :=
  "<span class=\"" ++ l.className ++ "\" style=\"" ++ l.style ++ "\">" ++ name ++ "</span>"

/-- The markup of an icon of a font. -/
def webFont (s : IconSource) (name : String) (l : IconLook) : Attempt String :=
  let template := s.render.getD ""
  if template.isEmpty then .ok (plainFont name l)
  else
    Template.render .markup [("name", .str name), ("style", .str l.style), ("size", .str l.size),
      ("color", l.color), ("class", .str l.className)] template

/-- The markup of an icon of a sprite. -/
def sprite (s : IconSource) (name : String) (l : IconLook) : String :=
  "<svg class=\"" ++ l.className ++ "\" width=\"" ++ l.size ++ "\" height=\"" ++ l.size ++
    "\" fill=\"" ++ l.color.text ++ "\">\n  <use xlink:href=\"" ++ s.url.getD "" ++ "#" ++ name ++
    "\"/>\n</svg>"

/-- The markup of an icon with some options. -/
def render (r : IconRegistry) (loader : Option SvgLoader) (name : String) (options : Value) :
    Except IconError String := do
  let resolved := r.resolve name
  let (p, icon) ← match parts? resolved with
    | some parts => .ok parts
    | none => .error (.noReference resolved)
  let source ← match r.source? p with
    | some s => .ok s
    | none => .error (.noSource p)
  let es ← (optionEntries options).mapError IconError.fault
  let l ← (r.look icon es).mapError IconError.fault
  match source.kind with
  | .webFont => (webFont source icon l).mapError IconError.fault
  | .svgSprite => return sprite source icon l
  | _ =>
    match loader with
    | none => throw (.noLoader source)
    | some load =>
      let svg ← load source icon
      (Svg.dress svg l.className l.size l.color.text).mapError IconError.fault

end IconRegistry

end SlidePress
