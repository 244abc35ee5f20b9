import SlidePress.Registry.Basic

/-! # The packaged templates

The templates that come with the library, in the order in which they are registered: lists, section
and title slides, tables, icon grids, quotes, columns and bibliographies.

* `Packaged.definitions`: the templates.
* `Packaged.register`: registers all of them. -/

namespace SlidePress.Packaged

/-! ### Declaring schemas -/

/-- The schema of one of the simple kinds. -/
def kind (name : String) : Value := .map (Entries.ofNames [("type", .str name)])

/-- The schema of texts. -/
def text : Value := kind "string"

/-- The schema of integers. -/
def integer : Value := kind "integer"

/-- The schema of mappings with some fields, the first of which are required. -/
def fields (required : List String) (properties : List (String × Value)) : Entries :=
  let names := if required.isEmpty then []
    else [("required", Value.list (required.map Value.str))]
  Entries.ofNames ([("type", .str "object")] ++ names ++
    [("properties", .map (Entries.ofNames properties))])

/-- The schema of lists with some bounds. -/
def listOf (bounds : List (String × Value)) (items : Value) : Value :=
  .map (Entries.ofNames ([("type", .str "array")] ++ bounds ++ [("items", items)]))

/-- The bound of lists that are not empty. -/
def some_ : List (String × Value) := [("minItems", .int 1)]

/-! ### Writing templates -/

/-- Lines, each with its end. -/
def lines (ls : List String) : String := String.join (ls.map fun l => l ++ "\n")

/-- An expression to print. -/
def show_ (e : String) : String := "\x7b\x7b " ++ e ++ " \x7d\x7d"

/-- A statement. -/
def step (s : String) : String := "\x7b% " ++ s ++ " %\x7d"

/-- A style rule. -/
def rule (selector : String) (properties : List String) : List String :=
  (selector ++ " \x7b") :: properties.map (fun p => "  " ++ p ++ ";") ++ [ "\x7d"]

/-- The lines of a title that may be left out. -/
def titleLines : List String :=
  [step "if content.title", "## " ++ show_ "content.title", step "endif", ""]

/-! ### The templates -/

/-- The schema of a list slide. -/
def listSchema : Entries :=
  fields [ "title", "items"] [("title", text), ("items", listOf some_ text)]

/-- A list with bullets. -/
def bulletList : TemplateDefinition :=
  ⟨"bullet-list", "Bulleted list with a title", "basic", listSchema,
    lines [ "## " ++ show_ "content.title", "", step "for item in content.items",
      "- " ++ show_ "refs.expand(item)", step "endfor"],
    some (Entries.ofNames [("title", .str "Agenda"),
      ("items", .list [.str "Context", .str "Method", .str "Results [@smith2024]"])]),
    none⟩

/-- A list with numbers. -/
def numberedList : TemplateDefinition :=
  ⟨"numbered-list", "Numbered list with a title", "basic", listSchema,
    lines [ "## " ++ show_ "content.title", "", step "for item in content.items",
      show_ "loop.index" ++ ". " ++ show_ "refs.expand(item)", step "endfor"],
    none, none⟩

/-- A slide between two sections. -/
def sectionSlide : TemplateDefinition :=
  ⟨"section", "Section divider", "basic",
    fields [ "title"] [("title", text),
      ("number", .map (Entries.ofNames [("oneOf", .list [text, integer])]))],
    lines [ "<!-- _class: section -->",
      step "if content.number" ++ "<span class=\"section-number\">" ++ show_ "content.number" ++
        "</span>",
      step "endif", "# " ++ show_ "content.title"],
    some (Entries.ofNames [("title", .str "Results"), ("number", .int 2)]),
    some (lines (rule "section.section" [ "justify-content: center"] ++
      rule "section.section .section-number" [ "font-size: 2em", "opacity: 0.6"]))⟩

/-- The first slide. -/
def titleSlide : TemplateDefinition :=
  ⟨"title", "Title slide with optional subtitle, author and date", "basic",
    fields [ "title"] [("title", text), ("subtitle", text), ("author", text), ("date", text)],
    lines [ "<!-- _class: title -->", "# " ++ show_ "content.title", step "if content.subtitle",
      "## " ++ show_ "content.subtitle", step "endif",
      step "if content.author or content.date",
      show_ "[content.author | default(meta.author), content.date] | select | join(\" — \")",
      step "endif"],
    some (Entries.ofNames [("title", .str "Quarterly Review"),
      ("subtitle", .str "Results and outlook"), ("author", .str "Jane Doe")]),
    some (lines (rule "section.title" [ "justify-content: center", "text-align: center"]))⟩

/-- A table. -/
def table : TemplateDefinition :=
  ⟨"table", "Table with header row", "data",
    fields [ "headers", "rows"] [("title", text), ("headers", listOf some_ text),
      ("rows", listOf [] (kind "array")), ("caption", text)],
    lines (titleLines ++ [ "| " ++ show_ "content.headers | join(\" | \")" ++ " |",
      "|" ++ step "for h in content.headers" ++ " --- |" ++ step "endfor", "",
      step "for row in content.rows", "| " ++ show_ "row | join(\" | \")" ++ " |", step "endfor",
      step "if content.caption", "", "*" ++ show_ "refs.expand(content.caption)" ++ "*",
      step "endif"]),
    none, none⟩

/-- The icons of a card. -/
def cardIcon : String :=
  "icons.render(item.icon, \x7b\"size\": \"48px\", " ++
    "\"color\": item.color | default(\"currentColor\")\x7d)"

/-- Cards with icons. -/
def iconGrid : TemplateDefinition :=
  ⟨"icon-grid", "Grid of icon cards with a short label", "layout",
    fields [ "items"] [("title", text), ("items", listOf (some_ ++ [("maxItems", .int 6)])
      (.map (fields [ "icon", "label"] [("icon", text), ("label", text), ("color", text)])))],
    lines (titleLines ++ [ "<div class=\"icon-grid\">", step "for item in content.items",
      "<div class=\"icon-card\">" ++ show_ cardIcon ++ "<span>" ++ show_ "item.label | escape" ++
        "</span></div>",
      step "endfor", "</div>"]),
    none,
    some (lines (rule ".icon-grid" [ "display: flex", "gap: 1em"] ++
      rule ".icon-card" [ "display: flex", "flex-direction: column", "align-items: center"]))⟩

/-- The source of a quote, cited if it is a citation. -/
def quoteSource : String :=
  "refs.cite(content.source) if content.source.startswith(\"@\") else content.source"

/-- A quote. -/
def quote : TemplateDefinition :=
  ⟨"quote", "Block quote with attribution", "layout",
    fields [ "text"] [("text", text), ("author", text), ("source", text)],
    lines [ "<!-- _class: quote -->", "> " ++ show_ "content.text | trim",
      step "if content.author", ">",
      "> — " ++ show_ "content.author" ++ step "if content.source" ++ ", " ++
        show_ quoteSource ++ step "endif",
      step "endif"],
    none, none⟩

/-- Two columns. -/
def twoColumn : TemplateDefinition :=
  ⟨"two-column", "Two columns of free Markdown text", "layout",
    fields [ "left", "right"] [("title", text), ("left", text), ("right", text)],
    lines (titleLines ++ [ "<div class=\"columns\">", "<div class=\"column\">", "",
      show_ "refs.expand(content.left)", "", "</div>", "<div class=\"column\">", "",
      show_ "refs.expand(content.right)", "", "</div>", "</div>"]),
    none,
    some (lines (rule ".columns" [ "display: grid", "grid-template-columns: 1fr 1fr",
      "gap: 1.5em"]))⟩

/-- One entry of a reference list written by hand. -/
def referenceLine : String :=
  "- " ++ show_ "ref.authors | join(\", \")" ++ show_ "\" (%s)\" % ref.year if ref.year" ++ ". " ++
    show_ "ref.title" ++ show_ "\". *%s*\" % ref.journal if ref.journal"

/-- The schema of one reference. -/
def referenceSchema : Value :=
  .map (fields [ "id"] [("id", text), ("authors", listOf [] text), ("title", text),
    ("year", integer), ("journal", text)])

/-- A list of references. -/
def bibliography : TemplateDefinition :=
  ⟨"bibliography", "Reference list, written by hand or generated from the citations in the deck",
    "reference",
    fields [] [("title", text), ("autoGenerate", kind "boolean"),
      ("sort", .map (Entries.ofNames [("type", .str "string"),
        ("enum", .list [.str "citation-order", .str "author", .str "year"])])),
      ("references", listOf [] referenceSchema)],
    lines [ "<!-- _class: bibliography -->",
      "## " ++ show_ "content.title | default(\"References\")", "",
      step "if content._generatedEntries", step "for entry in content._generatedEntries",
      "- " ++ show_ "entry", step "endfor", step "else", step "for ref in content.references",
      referenceLine, step "endfor", step "endif"],
    none,
    some (lines (rule "section.bibliography ul" [ "font-size: 0.7em"]))⟩

/-- The packaged templates. -/
def definitions : List TemplateDefinition :=
  [bulletList, numberedList, sectionSlide, titleSlide, table, iconGrid, quote, twoColumn,
    bibliography]

/-- Registers the packaged templates. -/
def register (r : Registry) : Registry × Except LoadError (List TemplateDefinition) :=
  definitions.foldl (fun (r, loaded) d =>
    match loaded, Schema.compile (.map d.schema) with
    | .error e, _ => (r, .error e)
    | .ok ds, .ok schema => (r.register ⟨d, schema⟩, .ok (ds ++ [d]))
    | .ok _, .error f => (r, .error (.fault f))) (r, .ok [])

end SlidePress.Packaged
