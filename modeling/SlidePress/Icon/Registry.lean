import SlidePress.Fields
import SlidePress.Files
import SlidePress.Text.Search
import SlidePress.Yaml.Data

/-! # The registry of icons

Icons come from sources, each with a prefix of its own, and are named by the prefix and a name with
a colon between. The registry also holds other names for icons, named colors, and the size and color
of icons for which none is given.

* `IconRegistry.ofText`: the registry that a YAML text declares.
* `IconRegistry.parts?`: prefix and name of an icon. -/

namespace SlidePress

/-- The kinds of sources. -/
inductive IconKind where
  | webFont
  | svgInline
  | svgSprite
  | localSvg
  deriving DecidableEq, Repr, Inhabited

namespace IconKind

/-- The name of a kind. -/
def name : IconKind → String
  | webFont => "web-font"
  | svgInline => "svg-inline"
  | svgSprite => "svg-sprite"
  | localSvg => "local-svg"

/-- All kinds by their names. -/
def choices : List (String × IconKind) :=
  [webFont, svgInline, svgSprite, localSvg].map fun k => (k.name, k)

theorem lookup_name (k : IconKind) : choices.lookup k.name = some k := by cases k <;> rfl

end IconKind

/-- A source of icons. -/
structure IconSource where
  name : String
  kind : IconKind
  /-- What the names of its icons begin with. -/
  mark : String
  url : Option String
  path : Option String
  /-- A template for the markup of an icon. -/
  render : Option String
  deriving DecidableEq, Repr, Inhabited

/-- Sources, other names, colors and defaults. -/
structure IconRegistry where
  sources : List IconSource
  aliases : List (String × String)
  colors : List (String × String)
  defaultSize : String
  defaultColor : String
  deriving DecidableEq, Repr, Inhabited

/-- The size of icons for which none is given. -/
def usualIconSize : String := "24px"

/-- The color that an icon takes from the text around it. -/
def currentColor : String := "currentColor"

namespace IconSource

/-- The source that some data declares. -/
def ofValue : Fields.Reader IconSource := fun v => do
  let es ← Fields.entriesOf "IconSource" v
  let start : Reading (String → IconKind → String → Option String → Option String →
      Option String → IconSource) := .ok IconSource.mk
  let named := Fields.andThen start (Fields.required es "name" Fields.text)
  let sorted := Fields.andThen named (Fields.required es "type" (Fields.choice
    "Input should be 'web-font', 'svg-inline', 'svg-sprite' or 'local-svg'" IconKind.choices))
  let marked := Fields.andThen sorted (Fields.required es "prefix" Fields.text)
  let linked := Fields.andThen marked (Fields.maybe es "url" Fields.text)
  let placed := Fields.andThen linked (Fields.maybe es "path" Fields.text)
  Fields.andThen placed (Fields.maybe es "render" Fields.text)

end IconSource

namespace IconRegistry

/-- No sources. -/
def empty : IconRegistry := ⟨[], [], [], usualIconSize, currentColor⟩

/-- The defaults that some data declares. -/
def defaultsOf : Fields.Reader (String × String) := fun v => do
  let es ← Fields.entriesOf "IconDefaults" v
  let start : Reading (String → String → String × String) := .ok Prod.mk
  let sized := Fields.andThen start (Fields.withDefault es "size" usualIconSize Fields.text)
  Fields.andThen sized (Fields.withDefault es "color" currentColor Fields.text)

/-- The registry that some data declares. -/
def ofValue : Fields.Reader IconRegistry := fun v => do
  let es ← Fields.entriesOf "IconRegistry" v
  let start : Reading (List IconSource → List (String × String) → List (String × String) →
      String × String → IconRegistry) := .ok fun s a c d => ⟨s, a, c, d.1, d.2⟩
  let sourced := Fields.andThen start
    (Fields.withDefault es "sources" [] (Fields.listOf IconSource.ofValue))
  let named := Fields.andThen sourced
    (Fields.withDefault es "aliases" [] (Fields.mapOf Fields.text))
  let colored := Fields.andThen named
    (Fields.withDefault es "colors" [] (Fields.mapOf Fields.text))
  Fields.andThen colored
    (Fields.withDefault es "defaults" (usualIconSize, currentColor) defaultsOf)

/-- The registry that a text declares; an empty text declares an empty one. -/
def ofText (s : String) : Attempt IconRegistry := do
  let v ← Yaml.load s
  (ofValue (if v.truthy then v else .map [])).mapError Fault.unfit

/-- The registry that a file declares. -/
def ofFile (body : Option Body) : Attempt IconRegistry := do ofText (← Body.read body)

/-- What is meant by a name: another name, or the name itself. -/
def resolve (r : IconRegistry) (name : String) : String := (r.aliases.lookup name).getD name

/-- What is meant by a color: the value of a named color, or the color itself. -/
def resolveColor (r : IconRegistry) (color : Value) : Attempt Value :=
  match color.text? with
  | some s => .ok (((r.colors.lookup s).map Value.str).getD color)
  | none => if color.hashable then .ok color else .error .wrongType

/-- Prefix and name of an icon, on either side of the first colon; both have to be there. -/
def parts? (reference : String) : Option (String × String) :=
  match Text.splitAt? [':'] reference.toList with
  | some (p, n) => if p.isEmpty || n.isEmpty then none else some (String.ofList p, String.ofList n)
  | none => none

/-- The first source with a prefix. -/
def source? (r : IconRegistry) (p : String) : Option IconSource :=
  r.sources.find? fun s => s.mark == p

end IconRegistry

end SlidePress
