import SlidePress.Fields
import SlidePress.Yaml.Data

/-! # Template definitions

A template is declared in a YAML mapping: its name, what it is for, the category it belongs to, the
schema of the content it takes, the text it prints, and possibly example content and style rules.

* `TemplateDefinition.ofValue`: the definition that some data declares. -/

namespace SlidePress

/-- A template. -/
structure TemplateDefinition where
  name : String
  description : String
  category : String
  schema : Entries
  output : String
  example? : Option Entries
  css : Option String
  deriving Inhabited

namespace TemplateDefinition

/-- The schema, which goes by either of two names; the first one wins. -/
def schemaOf (es : Entries) : Reading Entries :=
  if (es.get? "schema").isNone && (es.get? "content_schema").isSome then
    Fields.required es "content_schema" Fields.openMap
  else Fields.required es "schema" Fields.openMap

/-- The definition that some data declares. -/
def ofValue : Fields.Reader TemplateDefinition := fun v => do
  let es ← Fields.entriesOf "TemplateDefinition" v
  let start : Reading (String → String → String → Entries → String → Option Entries →
      Option String → TemplateDefinition) := .ok TemplateDefinition.mk
  let named := Fields.andThen start (Fields.required es "name" Fields.someText)
  let described := Fields.andThen named (Fields.required es "description" Fields.text)
  let sorted := Fields.andThen described (Fields.required es "category" Fields.text)
  let shaped := Fields.andThen sorted (schemaOf es)
  let printed := Fields.andThen shaped (Fields.required es "output" Fields.someText)
  let shown := Fields.andThen printed (Fields.maybe es "example" Fields.openMap)
  Fields.andThen shown (Fields.maybe es "css" Fields.text)

end TemplateDefinition

end SlidePress
