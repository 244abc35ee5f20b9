import Mathlib
import SlidePress.Registry.Packaged
import SlidePress.Template.Eval

/-! # The packaged templates as trees

What the texts of the packaged templates are read as, template by template. A line feed right behind
a statement belongs to the statement, so the lines of loops and choices leave nothing behind. -/

namespace SlidePress.Packaged

open Template

/-! ### Parts of trees -/

/-- A field of the content. -/
def field (name : String) : Expr := .attr (.name "content") name

/-- An expression sent through a filter with a constant argument. -/
def sent (e : Expr) (filter : String) (v : Value) : Expr := .filter e filter [(.positional, .const v)]

/-- What the citations of a text are expanded to. -/
def expanded (e : Expr) : Expr := .call (.attr (.name "refs") "expand") [(.positional, e)]

/-- One statement for each item of a field. -/
def forItems (x name : String) (body : List Stmt) : Stmt :=
  .each (.name x) (field name) none none body []

/-- Something that is printed if an expression counts as true. -/
def given (e : Expr) (body : List Stmt) : Stmt := .branch [(e, body)] []

/-- The line of a title that may be left out. -/
def titleTree : Stmt :=
  given (field "title") [.text "## ", .output (field "title"), .text "\n"]

/-! ### The templates -/

/-- A list, where `marker` stands in front of each item. -/
def listTree (marker : List Stmt) : List Stmt :=
  [.text "## ", .output (field "title"), .text "\n\n",
    forItems "item" "items" (marker ++ [.output (expanded (.name "item")), .text "\n"])]

/-- The marker of a list with bullets. -/
def bulletMarker : List Stmt := [.text "- "]

/-- The marker of a list with numbers. -/
def numberMarker : List Stmt := [.output (.attr (.name "loop") "index"), .text ". "]

/-- A slide between two sections. -/
def sectionTree : List Stmt :=
  [.text "<!-- _class: section -->\n",
    given (field "number")
      [.text "<span class=\"section-number\">", .output (field "number"), .text "</span>\n"],
    .text "# ", .output (field "title")]

/-- The author and the date, as far as they are given. -/
def signature : Expr :=
  .filter (.filter (.list [.filter (field "author") "default"
    [(.positional, .attr (.name "meta") "author")], field "date"]) "select" []) "join"
    [(.positional, .const (.str " — "))]

/-- The first slide. -/
def titleSlideTree : List Stmt :=
  [.text "<!-- _class: title -->\n# ", .output (field "title"), .text "\n",
    given (field "subtitle") [.text "## ", .output (field "subtitle"), .text "\n"],
    given (.either (field "author") (field "date")) [.output signature, .text "\n"]]

/-- A table. -/
def tableTree : List Stmt :=
  [titleTree, .text "\n| ", .output (sent (field "headers") "join" (.str " | ")), .text " |\n|",
    forItems "h" "headers" [.text " --- |"], .text "\n",
    forItems "row" "rows" [.text "| ", .output (sent (.name "row") "join" (.str " | ")),
      .text " |\n"],
    given (field "caption") [.text "\n*", .output (expanded (field "caption")), .text "*\n"]]

/-- The icon of a card. -/
def cardIconTree : Expr :=
  .call (.attr (.name "icons") "render") [(.positional, .attr (.name "item") "icon"),
    (.positional, .dict [(.const (.str "size"), .const (.str "48px")),
      (.const (.str "color"), sent (.attr (.name "item") "color") "default" (.str "currentColor"))])]

/-- Cards with icons. -/
def iconGridTree : List Stmt :=
  [titleTree, .text "\n<div class=\"icon-grid\">\n",
    forItems "item" "items" [.text "<div class=\"icon-card\">", .output cardIconTree, .text "<span>",
      .output (.filter (.attr (.name "item") "label") "escape" []), .text "</span></div>\n"],
    .text "</div>"]

/-- The source of a quote, cited if it is a citation. -/
def sourceTree : Expr :=
  .choose (.call (.attr (field "source") "startswith") [(.positional, .const (.str "@"))])
    (.call (.attr (.name "refs") "cite") [(.positional, field "source")]) (field "source")

/-- A quote. -/
def quoteTree : List Stmt :=
  [.text "<!-- _class: quote -->\n> ", .output (.filter (field "text") "trim" []), .text "\n",
    given (field "author") [.text ">\n> — ", .output (field "author"),
      given (field "source") [.text ", ", .output sourceTree]]]

/-- Two columns. -/
def twoColumnTree : List Stmt :=
  [titleTree, .text "\n<div class=\"columns\">\n<div class=\"column\">\n\n",
    .output (expanded (field "left")), .text "\n\n</div>\n<div class=\"column\">\n\n",
    .output (expanded (field "right")), .text "\n\n</div>\n</div>"]

/-- A part of a reference written by hand, in a form, if it is given. -/
def partTree (name form : String) : Expr :=
  .choose (.attr (.name "ref") name) (.binary .mod (.const (.str form)) (.attr (.name "ref") name))
    (.const .undefined)

/-- The entries of a reference list that is generated. -/
def entriesTree : Stmt :=
  forItems "entry" "_generatedEntries" [.text "- ", .output (.name "entry"), .text "\n"]

/-- The entries of a reference list that is written by hand. -/
def referencesTree : Stmt :=
  forItems "ref" "references" [.text "- ",
    .output (sent (.attr (.name "ref") "authors") "join" (.str ", ")),
    .output (partTree "year" " (%s)"), .text ". ", .output (.attr (.name "ref") "title"),
    .output (partTree "journal" ". *%s*"), .text "\n"]

/-- A list of references. -/
def bibliographyTree : List Stmt :=
  [.text "<!-- _class: bibliography -->\n## ",
    .output (sent (field "title") "default" (.str "References")), .text "\n\n",
    .branch [(field "_generatedEntries", [entriesTree])] [referencesTree]]

/-- The packaged templates with their trees. -/
def trees : List (TemplateDefinition × List Stmt) :=
  [(bulletList, listTree bulletMarker), (numberedList, listTree numberMarker),
    (sectionSlide, sectionTree), (titleSlide, titleSlideTree), (table, tableTree),
    (iconGrid, iconGridTree), (quote, quoteTree), (twoColumn, twoColumnTree),
    (bibliography, bibliographyTree)]

set_option maxRecDepth 100000 in
/-- **The packaged templates are read as their trees.** -/
theorem parse_eq_ok {d : TemplateDefinition} {tree : List Stmt} (h : (d, tree) ∈ trees) :
    parse known .slide d.output = .ok tree := by
  simp only [trees, List.mem_cons, Prod.mk.injEq, List.not_mem_nil, or_false] at h
  rcases h with ⟨rfl, rfl⟩ | ⟨rfl, rfl⟩ | ⟨rfl, rfl⟩ | ⟨rfl, rfl⟩ | ⟨rfl, rfl⟩ | ⟨rfl, rfl⟩ |
    ⟨rfl, rfl⟩ | ⟨rfl, rfl⟩ | ⟨rfl, rfl⟩
  map_tacs [unfold bulletList; unfold numberedList; unfold sectionSlide; unfold titleSlide;
    unfold table titleLines; unfold iconGrid titleLines cardIcon; unfold quote quoteSource;
    unfold twoColumn titleLines; unfold bibliography referenceLine]
  all_goals
    simp only [lines, show_, step, parse, Piece.ofText, Piece.source, List.cons_append,
      List.nil_append, List.map_cons, List.map_nil, String.join_cons, String.join_nil,
      String.toList_append, String.toList_empty, List.append_nil, String.append_assoc]
    cbv

end SlidePress.Packaged
