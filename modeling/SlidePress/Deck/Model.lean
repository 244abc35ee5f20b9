import SlidePress.Fields

/-! # Decks

A deck is a presentation before it is compiled: what is known about it as a whole, and its slides.
`Deck.ofValue` reads one from the data of its source.

* A slide names the template that lays it out; its content is open, and only the fields that the
  template declares are checked, later.
* A slide with the template `raw` is its own text. -/

namespace SlidePress

/-- How a deck wants its citations handled. -/
structure ReferenceSettings where
  enabled : Bool
  style : String
  deriving DecidableEq, Repr, Inhabited

/-- What is known about a deck as a whole. -/
structure DeckInfo where
  title : String
  author : Option String
  date : Option String
  theme : String
  references : Option ReferenceSettings
  deriving DecidableEq, Repr, Inhabited

/-- One slide. -/
structure Slide where
  template : String
  content : Entries
  cssClass : Option String
  notes : Option String
  raw : Option String
  deriving Inhabited

/-- A presentation before it is compiled. -/
structure Deck where
  info : DeckInfo
  slides : List Slide
  deriving Inhabited

/-- The theme of a deck that names none. -/
def defaultTheme : String := "default"

/-- The citation style of a deck that names none. -/
def defaultCitationStyle : String := "author-year-pmid"

/-- The template name of slides that are their own text. -/
def rawTemplate : String := "raw"

namespace ReferenceSettings

/-- Reads the settings of a deck. -/
def ofValue : Fields.Reader ReferenceSettings := fun v => do
  let es ← Fields.entriesOf "ReferencesSettings" v
  let enabled := Fields.withDefault es "enabled" true Fields.flag
  let style := Fields.withDefault es "style" defaultCitationStyle Fields.text
  Fields.andThen (enabled.map ReferenceSettings.mk) style

end ReferenceSettings

namespace DeckInfo

/-- A date may be written as text or as a date, which counts as its written form. -/
def dateText : Fields.Reader String
  | .date d => .ok d.iso
  | .timestamp t => .ok (t.iso "T")
  | v => Fields.text v

/-- Reads what is known about a deck. -/
def ofValue : Fields.Reader DeckInfo := fun v => do
  let es ← Fields.entriesOf "PresentationMeta" v
  let title := Fields.required es "title" Fields.someText
  let author := Fields.maybe es "author" Fields.text
  let date := Fields.maybe es "date" dateText
  let theme := Fields.withDefault es "theme" defaultTheme Fields.text
  let references := Fields.maybe es "references" ReferenceSettings.ofValue
  let titled := Fields.andThen (title.map DeckInfo.mk) author
  Fields.andThen (Fields.andThen (Fields.andThen titled date) theme) references

end DeckInfo

namespace Slide

/-- Whether the slide is its own text. -/
def isRaw (s : Slide) : Bool := s.template == rawTemplate

/-- Null counts as content without fields. -/
def contentOf : Fields.Reader Entries
  | .null => .ok []
  | v => Fields.openMap v

/-- Reads a slide; its class is given as `class` or, where that is missing, as `css_class`. -/
def ofValue : Fields.Reader Slide := fun v => do
  let es ← Fields.entriesOf "Slide" v
  let template := Fields.required es "template" Fields.text
  let content := Fields.withDefault es "content" [] contentOf
  let cssClass := match es.get? "class", es.get? "css_class" with
    | none, some v => Fields.under "class" (Fields.optional Fields.text v)
    | _, _ => Fields.maybe es "class" Fields.text
  let notes := Fields.maybe es "notes" Fields.text
  let raw := Fields.maybe es "raw" Fields.text
  let filled := Fields.andThen (template.map Slide.mk) content
  Fields.andThen (Fields.andThen (Fields.andThen filled cssClass) notes) raw

end Slide

namespace Deck

/-- Reads a deck; one without slides has none. -/
def ofValue : Fields.Reader Deck := fun v => do
  let es ← Fields.entriesOf "Presentation" v
  let info := Fields.required es "meta" DeckInfo.ofValue
  let slides := Fields.withDefault es "slides" [] (Fields.listOf Slide.ofValue)
  Fields.andThen (info.map Deck.mk) slides

end Deck

end SlidePress
