import SlidePress.Layout.Slide
import SlidePress.Proofs.Packaged.Trees
import SlidePress.Proofs.Value.Data

/-! # What the packaged templates do

Each packaged template, run on content that is data, amounts to a short talk with the layout: it
prints what its definition here says and asks for icons and citations where the definition does
(`run_of_amountsTo`). Where a template can fail, the talk fails in the same way. Three templates need
content of the right shape: the cards of icons and the references written by hand have to be
mappings, and the source of a quote a text.

The proofs follow the trees: one rule for each statement, and inside a loop what is known for an
item. -/

namespace SlidePress

open Template

/-- The scopes that the template of a slide starts with. -/
def SlidePlace.scopes (place : SlidePlace) (es : Entries) : List Scope :=
  [[], place.scope es ++ globals]

namespace Packaged

variable {place : SlidePlace} {es : Entries} {w : View}

/-- What the templates of slides run in. -/
def env : Env Requests := Env.of .slide Requests.helpers

/-- What the template of a slide knows. -/
def slideView (place : SlidePlace) (es : Entries) : View := .sees (place.scopes es)

/-- What is known for an item. -/
def itemView (place : SlidePlace) (es : Entries) (x : String) (v : Value) : View :=
  .sees ([(x, v)] :: place.scopes es)

/-- What is known for an item where the items are counted. -/
def turnView (place : SlidePlace) (es : Entries) (x : String) (v : Value) (id i : Nat) : View :=
  .turn ([(x, v), ("loop", .ref (.loop id))] :: place.scopes es) id i

/-- **Running a template** whose tree amounts to a talk. -/
theorem run_of_amountsTo {output : String} {tree : List Stmt} {f : Talk Requests String}
    (hp : parse known .slide output = .ok tree)
    (h : AmountsTo (slideView place es) (Stmt.runAll env tree) f) :
    Press.run place es output = (f Requests.empty).mapError SlideError.ofFault := by
  have hrender : renderWith .slide Requests.helpers (place.scope es) Requests.empty output =
      f Requests.empty := renderWith_of_amountsTo hp h
  rw [Press.run, hrender]

/-! ### Asking -/

/-- Asks for a text to be expanded. -/
def askExpand (v : Value) : Talk Requests String := fun r =>
  .ok (r.addExpand (Requests.textToExpand v))

/-- Asks for a citation. -/
def askCite (v : Value) : Talk Requests String := fun r => .ok (r.addCite v.text)

/-- Asks for an icon. -/
def askIcon (i : IconRequest) : Talk Requests String := fun r => .ok (r.addIcon i)

/-- The content of a slide and the helper objects are at hand. -/
structure Shows (w : View) (es : Entries) : Prop where
  content : w.Knows "content" (.map es)
  refs : w.Knows "refs" (.ref (.helper "refs"))
  icons : w.Knows "icons" (.ref (.helper "icons"))

theorem shows_slide : Shows (slideView place es) es :=
  ⟨View.knows_sees rfl, View.knows_sees rfl, View.knows_sees rfl⟩

theorem knows_item {x : String} {v : Value} : (itemView place es x v).Knows x v :=
  View.knows_sees (by simp [Store.lookupIn])

theorem knows_turn {x : String} {v : Value} {id i : Nat} :
    (turnView place es x v id i).Knows x v :=
  View.knows_turn (by simp [Store.lookupIn])

namespace Shows

theorem field (h : Shows w es) (name : String) :
    AmountsTo w ((field name).eval env) (pure (es.part name)) :=
  .part rfl (.name h.content)

theorem expanded (h : Shows w es) {e : Expr} {v : Value} (he : AmountsTo w (e.eval env) (pure v)) :
    AmountsTo w ((expanded e).eval env) (Value.str <$> askExpand v) :=
  .call (.operation (.name h.refs) rfl) (.args_cons he .args_nil)

theorem cited (h : Shows w es) {e : Expr} {v : Value} (he : AmountsTo w (e.eval env) (pure v)) :
    AmountsTo w (Expr.eval env (.call (.attr (.name "refs") "cite") [(.positional, e)]))
      (Value.str <$> askCite v) :=
  .call (.operation (.name h.refs) rfl) (.args_cons he .args_nil)

end Shows

theorem joined {e : Expr} {v : Value} (sep : String) (hv : v.direct = true)
    (he : AmountsTo w (e.eval env) (pure v)) :
    AmountsTo w ((sent e "join" (.str sep)).eval env) (Value.str <$> Talk.joined sep v) :=
  .filter he (.args_cons (.const _) .args_nil) (.join _ sep hv)

theorem defaulted {e : Expr} {v x : Value} (he : AmountsTo w (e.eval env) (pure v)) :
    AmountsTo w ((sent e "default" x).eval env) (pure (v.orElse x)) :=
  .filter he (.args_cons (.const _) .args_nil) (.orDefault _ v x)

theorem direct_orElse {v : Value} (hv : v.direct = true) (s : String) :
    (v.orElse (.str s)).direct = true := by
  cases v with
  | ref _ => cases hv
  | _ => rfl

/-- The line of a title that may be left out. -/
def titleLine (es : Entries) : String :=
  if (es.part "title").truthy then "## " ++ (es.part "title").printed ++ "\n" else ""

section

variable (hes : (Value.map es).isData = true)
include hes

/-- A field that is printed. -/
theorem Shows.output (h : Shows w es) (name : String) :
    AmountsTo w (Stmt.run env (.output (Packaged.field name))) (pure (es.part name).printed) :=
  .outputValue rfl (h.field name) (Entries.direct_part hes name)

theorem title_amounts : AmountsTo (slideView place es) (titleTree.run env) (pure (titleLine es)) := by
  refine (AmountsTo.optional (shows_slide.field "title") fun _ =>
    .cons (.text _) (.cons (shows_slide.output hes "title") (.cons (.text _) .nil))).congr ?_
  unfold titleLine Talk.given
  split_ifs <;> simp [String.append_assoc]

/-! ### Lists -/

/-- What a list prints, with `marker` in front of each item. -/
def listTalk (marker : Nat → String) (es : Entries) : Talk Requests String := do
  let lines ← Talk.overItems (fun i x => do return marker i ++ (← askExpand x) ++ "\n")
    (es.part "items")
  return "## " ++ (es.part "title").printed ++ "\n\n" ++ lines

theorem bulletList_amounts :
    AmountsTo (slideView place es) (Stmt.runAll env (listTree bulletMarker))
      (listTalk (fun _ => "- ") es) := by
  have hitems : AmountsTo (slideView place es) (Stmt.run env (forItems "item" "items"
        (bulletMarker ++ [.output (expanded (.name "item")), .text "\n"])))
      (Talk.overItems (fun _ x => do return "- " ++ (← askExpand x) ++ "\n")
        (es.part "items")) := by
    refine .each (Entries.direct_part hes "items") rfl (shows_slide.field "items") fun xs _ x _ => ?_
    have hitem : Shows (itemView place es "item" x) es :=
      ⟨View.knows_sees rfl, View.knows_sees rfl, View.knows_sees rfl⟩
    have hexpand := AmountsTo.output (hitem.expanded (.name knows_item))
    refine AmountsTo.congr (.cons (.text _) (.cons hexpand (.cons (.text _) .nil))) ?_
    simp [String.append_assoc]
  refine AmountsTo.congr (.cons (.text _) (.cons (shows_slide.output hes "title")
    (.cons (.text _) (.cons hitems .nil)))) ?_
  simp [listTalk, String.append_assoc]

theorem numberedList_amounts :
    AmountsTo (slideView place es) (Stmt.runAll env (listTree numberMarker))
      (listTalk (fun i => toString (i + 1) ++ ". ") es) := by
  have hitems : AmountsTo (slideView place es) (Stmt.run env (forItems "item" "items"
        (numberMarker ++ [.output (expanded (.name "item")), .text "\n"])))
      (Talk.overItems (fun i x => do return toString (i + 1) ++ ". " ++ (← askExpand x) ++ "\n")
        (es.part "items")) := by
    refine .eachNumbered (Entries.direct_part hes "items") rfl (shows_slide.field "items")
      fun xs _ id i x _ => ?_
    have hitem : Shows (turnView place es "item" x id i) es :=
      ⟨View.knows_turn rfl, View.knows_turn rfl, View.knows_turn rfl⟩
    have hindex : AmountsTo (turnView place es "item" x id i)
      (Expr.eval env (.attr (.name "loop") "index")) (pure (.int (i + 1 : Nat))) := .index rfl
    have hnumber : AmountsTo (turnView place es "item" x id i)
        (Stmt.run env (.output (.attr (.name "loop") "index"))) (pure (toString (i + 1))) :=
      .outputValue rfl hindex rfl
    have hexpand := AmountsTo.output (hitem.expanded (.name knows_turn))
    refine AmountsTo.congr
      (.cons hnumber (.cons (.text _) (.cons hexpand (.cons (.text _) .nil)))) ?_
    simp [String.append_assoc]
  refine AmountsTo.congr (.cons (.text _) (.cons (shows_slide.output hes "title")
    (.cons (.text _) (.cons hitems .nil)))) ?_
  simp [listTalk, String.append_assoc]

/-! ### Section and title slides -/

/-- What a slide between two sections prints. -/
def sectionText (es : Entries) : String :=
  "<!-- _class: section -->\n" ++
    (if (es.part "number").truthy then
      "<span class=\"section-number\">" ++ (es.part "number").printed ++ "</span>\n" else "") ++
    ("# " ++ (es.part "title").printed)

theorem section_amounts : AmountsTo (slideView place es) (Stmt.runAll env sectionTree)
    (pure (sectionText es)) := by
  have hslide : Shows (slideView place es) es := shows_slide
  have hnumber := AmountsTo.optional (hslide.field "number") fun _ =>
    .cons (.text "<span class=\"section-number\">") (.cons (hslide.output hes "number")
      (.cons (.text "</span>\n") .nil))
  refine AmountsTo.congr (.cons (.text _) (.cons hnumber
    (.cons (.text _) (.cons (hslide.output hes "title") .nil)))) ?_
  unfold sectionText Talk.given
  split_ifs <;>
    simp only [pure_bind, String.append_assoc, String.append_empty, String.empty_append]

/-- The author of a slide or else of the deck, and the date, as far as they are given. -/
def signatureText (deckAuthor : Value) (es : Entries) : String :=
  " — ".intercalate (([(es.part "author").orElse deckAuthor, es.part "date"].filter
    Value.truthy).map Value.text)

/-- What the first slide prints. -/
def titleSlideText (deckAuthor : Value) (es : Entries) : String :=
  "<!-- _class: title -->\n# " ++ (es.part "title").printed ++ "\n" ++
    (if (es.part "subtitle").truthy then "## " ++ (es.part "subtitle").printed ++ "\n" else "") ++
    (if (es.part "author").truthy || (es.part "date").truthy then
      signatureText deckAuthor es ++ "\n" else "")

theorem titleSlide_amounts : AmountsTo (slideView place es) (Stmt.runAll env titleSlideTree)
    (pure (titleSlideText (SlidePlace.textOrNull place.info.author) es)) := by
  have hslide : Shows (slideView place es) es := shows_slide
  have hmeta : (slideView place es).Knows "meta" (.map (Entries.ofNames
      [("title", .str place.info.title), ("author", SlidePlace.textOrNull place.info.author),
        ("theme", .str place.info.theme)])) := View.knows_sees rfl
  have hdeck : AmountsTo (slideView place es) (Expr.eval env (.attr (.name "meta") "author"))
    (pure (SlidePlace.textOrNull place.info.author)) := .part rfl (.name hmeta)
  have hauthor := AmountsTo.filter (hslide.field "author") (.args_cons hdeck .args_nil)
    (.orDefault _ _ _)
  have hsignature : AmountsTo (slideView place es) (Stmt.run env (.output signature))
      (pure (signatureText (SlidePlace.textOrNull place.info.author) es)) :=
    .output (.selectJoin rfl (List.cons_ne_nil _ _) (.pair hauthor (hslide.field "date")))
  have hsubtitle := AmountsTo.optional (hslide.field "subtitle") fun _ =>
    .cons (.text "## ") (.cons (hslide.output hes "subtitle") (.cons (.text "\n") .nil))
  have hsigned := AmountsTo.optional (.either (hslide.field "author") (hslide.field "date")) fun _ =>
    .cons hsignature (.cons (.text "\n") .nil)
  refine AmountsTo.congr (.cons (.text _) (.cons (hslide.output hes "title") (.cons (.text _)
    (.cons hsubtitle (.cons hsigned .nil))))) ?_
  unfold titleSlideText Talk.given
  cases (es.part "subtitle").truthy <;> cases hv : (es.part "author").truthy <;>
    cases hx : (es.part "date").truthy <;> simp [hv, hx, String.append_assoc]

/-! ### Tables -/

/-- What a table prints. -/
def tableTalk (es : Entries) : Talk Requests String := do
  let headers ← Talk.joined " | " (es.part "headers")
  let rule ← Talk.overItems (fun _ _ => return " --- |") (es.part "headers")
  let rows ← Talk.overItems (fun _ row => do return "| " ++ (← Talk.joined " | " row) ++ " |\n")
    (es.part "rows")
  let caption ← Talk.given (es.part "caption").truthy do
    return "\n*" ++ (← askExpand (es.part "caption")) ++ "*\n"
  return titleLine es ++ "\n| " ++ headers ++ " |\n|" ++ rule ++ "\n" ++ rows ++ caption

theorem table_amounts :
    AmountsTo (slideView place es) (Stmt.runAll env tableTree) (tableTalk es) := by
  have hslide : Shows (slideView place es) es := shows_slide
  have hheaders := AmountsTo.output
    (joined " | " (Entries.direct_part hes "headers") (hslide.field "headers"))
  have hrule : AmountsTo (slideView place es) (Stmt.run env (forItems "h" "headers" [.text " --- |"]))
      (Talk.overItems (fun _ _ => return " --- |") (es.part "headers")) := by
    refine .each (Entries.direct_part hes "headers") rfl (hslide.field "headers") fun xs _ x _ => ?_
    exact AmountsTo.congr (.cons (.text _) .nil) (by simp)
  have hrows : AmountsTo (slideView place es) (Stmt.run env (forItems "row" "rows" [.text "| ",
        .output (sent (.name "row") "join" (.str " | ")), .text " |\n"]))
      (Talk.overItems (fun _ row => do return "| " ++ (← Talk.joined " | " row) ++ " |\n")
        (es.part "rows")) := by
    refine .each (Entries.direct_part hes "rows") rfl (hslide.field "rows") fun xs hxs x hx => ?_
    have hdirect : x.direct = true :=
      Value.direct_of_isData (Entries.isData_of_mem_items_part hes hxs hx)
    have hitem : (itemView place es "row" x).Knows "row" x := knows_item
    have hrow := AmountsTo.output (joined " | " hdirect (.name hitem))
    refine AmountsTo.congr (.cons (.text _) (.cons hrow (.cons (.text _) .nil))) ?_
    simp [String.append_assoc]
  have hcaption := AmountsTo.optional (hslide.field "caption") fun _ =>
    .cons (.text "\n*") (.cons (.output (hslide.expanded (hslide.field "caption")))
      (.cons (.text "*\n") .nil))
  refine AmountsTo.congr (.cons (title_amounts hes) (.cons (.text _) (.cons hheaders (.cons (.text _)
    (.cons hrule (.cons (.text _) (.cons hrows (.cons hcaption .nil)))))))) ?_
  unfold tableTalk Talk.given
  split_ifs <;> simp [String.append_assoc]

/-! ### Columns -/

/-- What two columns print. -/
def twoColumnTalk (es : Entries) : Talk Requests String := do
  let left ← askExpand (es.part "left")
  let right ← askExpand (es.part "right")
  return titleLine es ++ "\n<div class=\"columns\">\n<div class=\"column\">\n\n" ++ left ++
    "\n\n</div>\n<div class=\"column\">\n\n" ++ right ++ "\n\n</div>\n</div>"

theorem twoColumn_amounts :
    AmountsTo (slideView place es) (Stmt.runAll env twoColumnTree) (twoColumnTalk es) := by
  have hslide : Shows (slideView place es) es := shows_slide
  refine AmountsTo.congr (.cons (title_amounts hes) (.cons (.text _)
    (.cons (.output (hslide.expanded (hslide.field "left"))) (.cons (.text _)
      (.cons (.output (hslide.expanded (hslide.field "right"))) (.cons (.text _) .nil)))))) ?_
  simp [twoColumnTalk, String.append_assoc]

/-! ### Quotes -/

/-- What the source of a quote prints. -/
def sourceTalk (source : Value) : Talk Requests String :=
  if Text.startsWith ['@'] source.text.toList then askCite source else return source.text

/-- What a quote prints. -/
def quoteTalk (es : Entries) : Talk Requests String := do
  let credit ← Talk.given (es.part "author").truthy do
    let source ← Talk.given (es.part "source").truthy do
      return ", " ++ (← sourceTalk (es.part "source"))
    return ">\n> — " ++ (es.part "author").printed ++ source
  return "<!-- _class: quote -->\n> " ++
    (Filter.mapText Text.stripChars (es.part "text")).printed ++ "\n" ++ credit

omit hes in
theorem source_amounts {s : String} (hs : es.part "source" = .str s) :
    AmountsTo (slideView place es) (Stmt.run env (.output sourceTree))
      (sourceTalk (es.part "source")) := by
  have hslide : Shows (slideView place es) es := shows_slide
  have hsource : AmountsTo (slideView place es) ((field "source").eval env) (pure (.str s)) :=
    hs ▸ hslide.field "source"
  have hchoose := AmountsTo.choose (.startsWith (t := "@") hsource)
    (fun _ => hslide.cited hsource) fun _ => hsource
  rw [hs, sourceTalk]
  refine .output (hchoose.congr ?_)
  show (if Text.startsWith ['@'] s.toList = true then _ else _) =
    Value.str <$> (if Text.startsWith ['@'] s.toList = true then _ else _)
  split_ifs <;> rfl

theorem quote_amounts
    (hsource : (es.part "source").truthy = true → ∃ s, es.part "source" = .str s) :
    AmountsTo (slideView place es) (Stmt.runAll env quoteTree) (quoteTalk es) := by
  have hslide : Shows (slideView place es) es := shows_slide
  have htrim : AmountsTo (slideView place es)
      (Stmt.run env (.output (.filter (field "text") "trim" [])))
      (pure (Filter.mapText Text.stripChars (es.part "text")).printed) := by
    refine .outputValue rfl (.filter (hslide.field "text") .args_nil (.trim _ _)) ?_
    cases es.part "text" <;> rfl
  have hcited := AmountsTo.optional (hslide.field "source") fun ht => by
    obtain ⟨s, hs⟩ := hsource ht
    have hprinted : AmountsTo (slideView place es) (Stmt.run env (.output sourceTree)) _ :=
      source_amounts hs
    exact .cons (.text ", ") (.cons hprinted .nil)
  have hcredit := AmountsTo.optional (hslide.field "author") fun _ =>
    .cons (.text ">\n> — ") (.cons (hslide.output hes "author") (.cons hcited .nil))
  refine AmountsTo.congr (.cons (.text _) (.cons htrim (.cons (.text _) (.cons hcredit .nil)))) ?_
  unfold quoteTalk Talk.given
  split_ifs <;> simp [String.append_assoc]

/-! ### Cards -/

/-- The icon of a card. -/
def cardRequest (card : Entries) : IconRequest :=
  ⟨(card.part "icon").text, .map (Entries.ofPairs [(.str "size", .str "48px"),
    (.str "color", (card.part "color").orElse (.str "currentColor"))])⟩

/-- What a card prints. -/
def cardTalk (card : Value) : Talk Requests String := do
  let card : Entries := card.entries?.getD []
  let icon ← askIcon (cardRequest card)
  return "<div class=\"icon-card\">" ++ icon ++ "<span>" ++
    (card.part "label").escaped.printed ++ "</span></div>\n"

/-- What cards with icons print. -/
def iconGridTalk (es : Entries) : Talk Requests String := do
  let cards ← Talk.overItems (fun _ => cardTalk) (es.part "items")
  return titleLine es ++ "\n<div class=\"icon-grid\">\n" ++ cards ++ "</div>"

omit hes in
theorem card_amounts {card : Entries} (hw : Shows w es) (hitem : w.Knows "item" (.map card)) :
    AmountsTo w (Stmt.runAll env [.text "<div class=\"icon-card\">", .output cardIconTree,
      .text "<span>", .output (.filter (.attr (.name "item") "label") "escape" []),
      .text "</span></div>\n"]) (cardTalk (.map card)) := by
  have hpart (name : String) : AmountsTo w (Expr.eval env (.attr (.name "item") name))
    (pure (card.part name)) := .part rfl (.name hitem)
  have hoptions := AmountsTo.dict (.pairs_cons (.const (.str "size")) (.const (.str "48px"))
    (.pairs_cons (.const (.str "color")) (defaulted (x := .str "currentColor") (hpart "color"))
      .pairs_nil)) rfl
  have hicon : AmountsTo w (Stmt.run env (.output cardIconTree)) (askIcon (cardRequest card)) := by
    exact .output (.call (.operation (.name hw.icons) rfl)
      (.args_cons (hpart "icon") (.args_cons hoptions .args_nil)))
  have hlabel : AmountsTo w (Stmt.run env (.output (.filter (.attr (.name "item") "label") "escape"
      []))) (pure (card.part "label").escaped.printed) := by
    refine .outputValue rfl (.filter (hpart "label") .args_nil (.escape _ _)) ?_
    cases card.part "label" <;> rfl
  refine AmountsTo.congr (.cons (.text _) (.cons hicon (.cons (.text _) (.cons hlabel
    (.cons (.text _) .nil))))) ?_
  simp [cardTalk, Value.entries?, String.append_assoc]

theorem iconGrid_amounts
    (hcards : ∀ xs, (es.part "items").items? = some xs → ∀ x ∈ xs, ∃ card, x = .map card) :
    AmountsTo (slideView place es) (Stmt.runAll env iconGridTree) (iconGridTalk es) := by
  have hitems : AmountsTo (slideView place es) (Stmt.run env (forItems "item" "items"
      [.text "<div class=\"icon-card\">", .output cardIconTree, .text "<span>",
        .output (.filter (.attr (.name "item") "label") "escape" []), .text "</span></div>\n"]))
        (Talk.overItems (fun _ => cardTalk) (es.part "items")) := by
    refine .each (Entries.direct_part hes "items") rfl (shows_slide.field "items")
      fun xs hxs x hx => ?_
    obtain ⟨card, rfl⟩ := hcards xs hxs x hx
    exact card_amounts (w := itemView place es "item" (.map card))
      ⟨View.knows_sees rfl, View.knows_sees rfl, View.knows_sees rfl⟩ knows_item
  refine AmountsTo.congr (.cons (title_amounts hes) (.cons (.text _) (.cons hitems
    (.cons (.text _) .nil)))) ?_
  simp [iconGridTalk, String.append_assoc]

end

/-! ### References -/

/-- What a part of a reference written by hand prints, in a form, if it is given. -/
def partTalk (form : String) (v : Value) : Talk Requests String :=
  Talk.given v.truthy (StateT.lift (Value.percent form v))

/-- What a reference written by hand prints. -/
def referenceTalk (v : Value) : Talk Requests String := do
  let ref : Entries := v.entries?.getD []
  let authors ← Talk.joined ", " (ref.part "authors")
  let year ← partTalk " (%s)" (ref.part "year")
  let journal ← partTalk ". *%s*" (ref.part "journal")
  return "- " ++ authors ++ year ++ ". " ++ (ref.part "title").printed ++ journal ++ "\n"

/-- What a list of references prints. -/
def bibliographyTalk (es : Entries) : Talk Requests String := do
  let entries ← if (es.part "_generatedEntries").truthy then
      Talk.overItems (fun _ entry => return "- " ++ entry.printed ++ "\n")
        (es.part "_generatedEntries")
    else Talk.overItems (fun _ => referenceTalk) (es.part "references")
  return "<!-- _class: bibliography -->\n## " ++
    ((es.part "title").orElse (.str "References")).printed ++ "\n\n" ++ entries

/-- Content that a list of references can be made of. -/
structure Listable (es : Entries) : Prop where
  title : (es.part "title").direct = true
  entries : (es.part "_generatedEntries").direct = true
  entry : ∀ xs, (es.part "_generatedEntries").items? = some xs → ∀ x ∈ xs, x.direct = true
  references : (es.part "references").direct = true
  reference : (es.part "_generatedEntries").truthy = false →
    ∀ xs, (es.part "references").items? = some xs → ∀ x ∈ xs,
      ∃ ref : Entries, x = .map ref ∧ ∀ name, (ref.part name).direct = true

theorem part_amounts {name : String} (form : String) {v : Value}
    (hv : AmountsTo w (Expr.eval env (.attr (.name "ref") name)) (pure v)) :
    AmountsTo w (Stmt.run env (.output (partTree name form))) (partTalk form v) := by
  have hchoose := AmountsTo.choose hv (fun _ => .percent (s := form) hv)
    fun _ => .const .undefined
  unfold partTalk Talk.given
  cases ht : v.truthy with
  | true =>
    rw [ht] at hchoose
    exact .output hchoose
  | false =>
    rw [ht] at hchoose
    exact .outputValue rfl hchoose rfl

theorem reference_amounts {ref : Entries} (hdirect : ∀ name, (ref.part name).direct = true)
    (href : w.Knows "ref" (.map ref)) :
    AmountsTo w (Stmt.runAll env [.text "- ",
      .output (sent (.attr (.name "ref") "authors") "join" (.str ", ")),
      .output (partTree "year" " (%s)"), .text ". ", .output (.attr (.name "ref") "title"),
      .output (partTree "journal" ". *%s*"), .text "\n"]) (referenceTalk (.map ref)) := by
  have hpart (name : String) : AmountsTo w (Expr.eval env (.attr (.name "ref") name))
    (pure (ref.part name)) := .part rfl (.name href)
  refine AmountsTo.congr (.cons (.text _)
    (.cons (.output (joined ", " (hdirect "authors") (hpart "authors")))
      (.cons (part_amounts " (%s)" (hpart "year")) (.cons (.text _)
        (.cons (.outputValue rfl (hpart "title") (hdirect "title"))
          (.cons (part_amounts ". *%s*" (hpart "journal")) (.cons (.text _) .nil))))))) ?_
  simp [referenceTalk, Value.entries?, String.append_assoc]

theorem bibliography_amounts (h : Listable es) :
    AmountsTo (slideView place es) (Stmt.runAll env bibliographyTree) (bibliographyTalk es) := by
  have hslide : Shows (slideView place es) es := shows_slide
  have htitle := AmountsTo.outputValue rfl (defaulted (x := .str "References") (hslide.field "title"))
    (direct_orElse h.title "References")
  have hentries : AmountsTo (slideView place es) (Stmt.run env entriesTree)
      (Talk.overItems (fun _ entry => return "- " ++ entry.printed ++ "\n")
        (es.part "_generatedEntries")) := by
    refine .each h.entries rfl (hslide.field "_generatedEntries") fun xs hxs x hx => ?_
    have hitem : (itemView place es "entry" x).Knows "entry" x := knows_item
    have hentry : AmountsTo _ (Stmt.run env (.output (.name "entry"))) _ :=
      .outputValue rfl (.name hitem) (h.entry xs hxs x hx)
    refine AmountsTo.congr (.cons (.text _) (.cons hentry (.cons (.text _) .nil))) ?_
    simp [String.append_assoc]
  have hreferences (ht : (es.part "_generatedEntries").truthy = false) :
      AmountsTo (slideView place es) (Stmt.run env referencesTree)
        (Talk.overItems (fun _ => referenceTalk) (es.part "references")) := by
    refine .each h.references rfl (hslide.field "references") fun xs hxs x hx => ?_
    obtain ⟨ref, rfl, hdirect⟩ := h.reference ht xs hxs x hx
    exact reference_amounts (w := itemView place es "ref" (.map ref)) hdirect knows_item
  have hlist := AmountsTo.branch (hslide.field "_generatedEntries")
    (fun _ => .cons hentries .nil) fun ht => .cons (hreferences ht) .nil
  refine AmountsTo.congr (.cons (.text _) (.cons htitle (.cons (.text _) (.cons hlist .nil)))) ?_
  unfold bibliographyTalk
  split_ifs <;> simp [String.append_assoc]

end Packaged

end SlidePress
