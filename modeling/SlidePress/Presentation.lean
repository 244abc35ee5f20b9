import SlidePress.Deck.Model
import SlidePress.Text.Blank
import SlidePress.Text.Search

/-! # The finished document

A document begins with a header between two lines of three hyphens; the header holds one line for
each thing known about the deck, and the style sheet indented by two blanks. The slides follow,
with a line of three hyphens between neighbours; the notes of a slide stand behind its body in a
comment.

* `Header.value`: the written form of a value in the header.
* `Document.header`, `Document.render`: the header and the whole document. -/

namespace SlidePress

namespace Header

/-- The characters on account of which a text is put in quotes. -/
def needsQuotes (c : Char) : Bool :=
  c == ':' || c == '#' || c == '[' || c == ']' || c == '{' || c == '}' || c == '|' || c == '>'

/-- A text in double quotes, in which double quotes are escaped. -/
def quoted (cs : List Char) : List Char := '"' :: Text.replaceAll ['"'] ['\\', '"'] cs ++ ['"']

/-- A text, in quotes if it holds a character that asks for them. -/
def textValue (s : String) : String :=
  if s.toList.any needsQuotes then String.ofList (quoted s.toList) else s

/-- The written form of a value in the header. -/
def value : Value → String
  | .bool b => if b then "true" else "false"
  | .null => "null"
  | .int n => (Value.int n).text
  | .float x => (Value.float x).text
  | v => textValue v.text

/-- A line of the header. -/
def line (name : String) (v : Value) : String := name ++ ": " ++ value v

end Header

/-- What a document is rendered with. -/
structure RenderOptions where
  includeTheme : Bool
  /-- Notes by the number of their slide, from 0. -/
  notes : List (Nat × String)
  /-- Further lines of the header. -/
  extra : Entries
  /-- The style sheet. -/
  style : Option String
  deriving Inhabited

/-- A document with its theme, and nothing besides. -/
def RenderOptions.default : RenderOptions := ⟨true, [], [], none⟩

namespace Document

/-- What stands between the bodies of two slides. -/
def separator : String := "\n\n---\n\n"

/-- The lines of a text, without their line feeds. -/
def linesOf (s : String) : List String := (Text.splitOn ['\n'] s.toList).map String.ofList

/-- A header line for a text, unless the text is empty or missing. -/
def lineOf? (name : String) (s : Option String) : List String :=
  match s with
  | some s => if s.isEmpty then [] else [Header.line name (.str s)]
  | none => []

/-- The style sheet in the header. -/
def styleLines (style : Option String) : List String :=
  match style with
  | none => []
  | some s =>
    if s.isEmpty then []
    else "style: |" :: (linesOf s).map fun l => if l.isEmpty then "" else "  " ++ l

/-- The lines of the header. -/
def headerLines (info : DeckInfo) (o : RenderOptions) : List String :=
  ["---", "marp: true", Header.line "title" (.str info.title)] ++
    lineOf? "author" info.author ++ lineOf? "date" info.date ++
    (if o.includeTheme then lineOf? "theme" (some info.theme) else []) ++
    o.extra.map (fun e => Header.line e.1.text e.2) ++
    styleLines o.style ++ ["---"]

/-- The header. -/
def header (info : DeckInfo) (o : RenderOptions) : String :=
  Text.join "\n" (headerLines info o)

/-- A body with its notes behind it; notes that are blank are left out. -/
def withNotes (body : String) (note : Option String) : String :=
  let note := Text.strip (note.getD "")
  if note.isEmpty then body else body ++ "\n\n<!--\n" ++ note ++ "\n-->"

/-- The bodies with their notes. -/
def bodies (slides : List String) (o : RenderOptions) : List String :=
  slides.mapIdx fun i body => withNotes body (o.notes.lookup i)

/-- The whole document. -/
def render (slides : List String) (info : DeckInfo) (o : RenderOptions) : String :=
  if slides.isEmpty then header info o
  else header info o ++ "\n\n" ++ Text.join separator (bodies slides o)

end Document

end SlidePress
