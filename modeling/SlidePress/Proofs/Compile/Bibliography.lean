import SlidePress.Proofs.Citation.Collected
import SlidePress.Proofs.Compile.Lookup
import SlidePress.Proofs.Packaged.Drafts
import SlidePress.Proofs.Reference.Generating

/-! # Bibliographies of decks

Bibliographies are filled in slide by slide: a slide that wants one gets it, all others stay as they
are (`Deck.fillBibliographies_eq_ok`). With plain references on a shelf and orders that exist this
succeeds, the filled content fits the packaged template, and the slide comes out as the list of the
entries (`Compiler.exists_bibliography`). -/

namespace SlidePress

/-- Texts that begin with different characters differ. -/
theorem append_ne_append {a b : String} {x y : Char} (ha : a.toList.head? = some x)
    (hb : b.toList.head? = some y) (hxy : x ≠ y) (s t : String) : a ++ s ≠ b ++ t := fun h => by
  have hhead := congrArg (fun s => s.toList.head?) h
  simp only [String.toList_append, List.head?_append, ha, hb, Option.some_or,
    Option.some.injEq] at hhead
  exact hxy hhead

/-! ### Filled slides -/

/-- What becomes of a slide when bibliographies are filled in. -/
inductive Slide.Filled (source : ReferenceSource) (ids : List String) : Slide → Slide → Prop
  | kept {s : Slide} (h : s.wantsBibliography = false) : Filled source ids s s
  | filled {s s' : Slide} {b : Bibliography} (h : s.wantsBibliography = true)
      (hb : Bibliography.generate source ids s.bibliographyOrder = .ok b)
      (hs : s.withBibliography b = .ok s') : Filled source ids s s'

/-- Why a slide that wants a bibliography does not get it: it cannot be made, or its items cannot be
put into the content. -/
inductive Slide.FailsWith (source : ReferenceSource) (ids : List String) (s : Slide) :
    ReferenceError → Prop
  | unmade {e : ReferenceError} (h : s.wantsBibliography = true)
      (hb : Bibliography.generate source ids s.bibliographyOrder = .error e) : FailsWith source ids s e
  | unlisted {b : Bibliography} {f : Fault} (h : s.wantsBibliography = true)
      (hb : Bibliography.generate source ids s.bibliographyOrder = .ok b)
      (hs : s.withBibliography b = .error f) : FailsWith source ids s (.fault f)

/-- The warnings about the references that the bibliography of a slide misses, if it wants one. -/
def Slide.missingWarnings (source : ReferenceSource) (ids : List String) (s : Slide) : List String :=
  if s.wantsBibliography then
    match Bibliography.generate source ids s.bibliographyOrder with
    | .ok b => Deck.missingWarnings b
    | .error _ => []
  else []

section Steps

variable {source : ReferenceSource} {ids : List String} {s t u : Slide} {e : ReferenceError}

namespace Slide

/-- A slide is filled in one way. -/
theorem Filled.eq (ht : s.Filled source ids t) (hu : s.Filled source ids u) : t = u := by
  cases ht with
  | kept h =>
    cases hu with
    | kept => rfl
    | filled h' => simp [h] at h'
  | filled h hb ht =>
    cases hu with
    | kept h' => simp [h] at h'
    | filled _ hb' hu =>
      cases hb.symm.trans hb'
      exact Except.ok.inj (ht.symm.trans hu)

theorem Filled.not_failsWith (ht : s.Filled source ids t) : ¬ s.FailsWith source ids e := by
  intro he
  cases ht with
  | kept h =>
    cases he with
    | unmade h' => simp [h] at h'
    | unlisted h' => simp [h] at h'
  | filled _ hb hs =>
    cases he with
    | unmade _ hb' => cases hb.symm.trans hb'
    | unlisted _ hb' hs' =>
      cases hb.symm.trans hb'
      cases hs.symm.trans hs'

theorem filled_or_failsWith (source : ReferenceSource) (ids : List String) (s : Slide) :
    (∃ t, s.Filled source ids t) ∨ ∃ e, s.FailsWith source ids e := by
  cases h : s.wantsBibliography with
  | false => exact .inl ⟨s, .kept h⟩
  | true =>
    cases hb : Bibliography.generate source ids s.bibliographyOrder with
    | error e => exact .inr ⟨e, .unmade h hb⟩
    | ok b =>
      cases hs : s.withBibliography b with
      | error f => exact .inr ⟨.fault f, .unlisted h hb hs⟩
      | ok t => exact .inl ⟨t, .filled h hb hs⟩

end Slide

namespace Deck

/-- One step of filling in bibliographies, if the slide is filled. -/
theorem fillBibliographies_cons_of_filled (h : s.Filled source ids t) (ss : List Slide) :
    fillBibliographies source ids (s :: ss) =
      (s.missingWarnings source ids ++ (fillBibliographies source ids ss).1,
        (fillBibliographies source ids ss).2.map (t :: ·)) := by
  cases h with
  | kept h => simp [fillBibliographies, Slide.missingWarnings, h]
  | filled h hb hs => simp [fillBibliographies, Slide.missingWarnings, h, hb, hs]

/-- One step of filling in bibliographies, if the slide fails. -/
theorem fillBibliographies_cons_of_failsWith (h : s.FailsWith source ids e) (ss : List Slide) :
    fillBibliographies source ids (s :: ss) = (s.missingWarnings source ids, .error e) := by
  cases h with
  | unmade h hb => simp [fillBibliographies, Slide.missingWarnings, h, hb]
  | unlisted h hb hs => simp [fillBibliographies, Slide.missingWarnings, h, hb, hs]

/-- **Filling in bibliographies** goes slide by slide. -/
theorem fillBibliographies_eq_ok {ss out : List Slide} :
    (fillBibliographies source ids ss).2 = .ok out ↔
      List.Forall₂ (Slide.Filled source ids) ss out := by
  induction ss generalizing out with
  | nil =>
    constructor
    · intro h
      cases h
      exact .nil
    · intro h
      cases h
      rfl
  | cons s ss ih =>
    rcases s.filled_or_failsWith source ids with ⟨t, ht⟩ | ⟨e, he⟩
    · rw [fillBibliographies_cons_of_filled ht, Attempt.map_eq_ok]
      constructor
      · rintro ⟨rest, hrest, rfl⟩
        exact .cons ht (ih.1 hrest)
      · rintro (_ | ⟨hs, hrest⟩)
        exact ⟨_, ih.2 hrest, by rw [ht.eq hs]⟩
    · rw [fillBibliographies_cons_of_failsWith he]
      refine iff_of_false (fun h => by cases h) fun h => ?_
      cases h with
      | cons h => exact h.not_failsWith he

/-- If a slide wants a bibliography and all of them can be made, they are filled in. -/
theorem withBibliographies_of_filled {describe : Fault → String} {c : Config} {d : Deck}
    {out : List Slide} (hids : ids ≠ []) (henabled : d.referencesEnabled c = true)
    (havailable : source.available = true) (hany : d.slides.any Slide.wantsBibliography = true)
    (hout : List.Forall₂ (Slide.Filled source ids) d.slides out) :
    (d.withBibliographies describe c source ids).2 = { d with slides := out } := by
  have hfill := fillBibliographies_eq_ok.2 hout
  have hempty : ids.isEmpty = false := by simpa using hids
  unfold withBibliographies
  rw [hempty, henabled, havailable, hany]
  rcases h : fillBibliographies source ids d.slides with ⟨warnings, e | slides⟩
  · rw [h] at hfill
    cases hfill
  · rw [h] at hfill
    cases hfill
    rfl

end Deck

end Steps

/-! ### Making a bibliography -/

/-- The references on a shelf among those with some names. -/
def Shelf.known (shelf : Shelf) (ids : List String) : List Reference :=
  ids.filterMap fun id => shelf.get? (.str id)

/-! ### Content with a bibliography -/

namespace Slide

/-- The order that a slide wants its bibliography to have. -/
def AsksFor (s : Slide) (o : ReferenceOrder) : Prop :=
  (Entries.getD s.content "sort" = .null ∧ o = .cited) ∨
    (Entries.getD s.content "sort").text? = some o.name

theorem template_of_wantsBibliography {s : Slide} (h : s.wantsBibliography = true) :
    s.template = bibliographyTemplate := by
  unfold wantsBibliography at h
  exact beq_iff_eq.1 (Bool.and_eq_true_iff.1 h).1

theorem AsksFor.ofValue_eq {s : Slide} {o : ReferenceOrder} (h : s.AsksFor o) :
    ReferenceOrder.ofValue s.bibliographyOrder = .ok o := by
  unfold bibliographyOrder
  rcases h with ⟨hsort, rfl⟩ | hsort
  · rw [hsort]
    rfl
  · have htruthy : (Entries.getD s.content "sort").truthy = true := by
      cases hv : Entries.getD s.content "sort" with
      | str t | markup t =>
        rw [hv] at hsort
        cases hsort
        cases o <;> rfl
      | _ => simp [hv, Value.text?] at hsort
    dsimp only
    rw [if_pos htruthy, ReferenceOrder.ofValue, hsort, Option.bind_some, ReferenceOrder.ofName?_name]

end Slide

namespace Entries

/-- Content with the data of references and their entries. -/
def listing (es : Entries) (references : List Entries) (entries : List String) : Entries :=
  update es (ofNames [("references", .list (references.map .map)), ("_autoGenerated", .bool true),
    ("_generatedEntries", .list (entries.map .str))])

variable {es : Entries} {references : List Entries} {entries : List String}

theorem listing_eq : listing es references entries =
    insert (insert (insert es (.str "references") (.list (references.map .map)))
      (.str "_autoGenerated") (.bool true)) (.str "_generatedEntries") (.list (entries.map .str)) :=
  rfl

theorem get?_listing (name : String) : get? (listing es references entries) name =
    if name = "_generatedEntries" then some (.list (entries.map .str))
    else if name = "_autoGenerated" then some (.bool true)
    else if name = "references" then some (.list (references.map .map))
    else get? es name := by
  rw [listing_eq, get?_insert, get?_insert, get?_insert]
  simp only [Value.text?, Option.some.injEq, eq_comm (b := name)]

/-- Whether a title is a text, if there is one. -/
def Titled (es : Entries) : Prop := getD es "title" = .null ∨ ∃ t, (getD es "title").text? = some t

/-- What a title is written as. -/
def titleText (es : Entries) : String := (getD es "title").text?.getD "References"

theorem Titled.cases (h : es.Titled) :
    (es.part "title" = .undefined ∨ es.part "title" = .null) ∧ es.titleText = "References" ∨
      ∃ t, (es.part "title" = .str t ∨ es.part "title" = .markup t) ∧ es.titleText = t := by
  unfold Titled titleText getD at *
  unfold part
  cases hget : es.get? "title" with
  | none => exact .inl ⟨.inl rfl, rfl⟩
  | some v =>
    rw [hget] at h
    rcases h with h | ⟨t, ht⟩
    · obtain rfl : v = .null := h
      exact .inl ⟨.inr rfl, rfl⟩
    · replace ht : v.text? = some t := ht
      refine .inr ⟨t, ?_, by rw [Option.getD_some, ht]; rfl⟩
      cases v with
      | str _ => exact .inl (congrArg Value.str (Option.some.inj ht))
      | markup _ => exact .inr (congrArg Value.markup (Option.some.inj ht))
      | _ => cases ht

theorem Titled.printed_part (h : es.Titled) :
    ((es.part "title").orElse (.str "References")).printed = es.titleText := by
  rcases h.cases with ⟨hp | hp, ht⟩ | ⟨t, hp | hp, ht⟩ <;> rw [hp, ht] <;> rfl

theorem Titled.direct_part (h : es.Titled) : (es.part "title").direct = true := by
  rcases h.cases with ⟨hp | hp, -⟩ | ⟨t, hp | hp, -⟩ <;> rw [hp] <;> rfl

end Entries

/-- A slide with the data of references and their entries. -/
def Slide.listing (s : Slide) (references : List Entries) (entries : List String) : Slide :=
  { s with content := Entries.listing s.content references entries }

namespace Packaged

open Schema Template

/-- Content that fits apart from its references has a title that is a text, if there is one. -/
theorem titled_of_conforms {es : Entries} {references : Value}
    (h : Conforms (.map bibliography.schema) (.map (es.insert (.str "references") references))) :
    es.Titled := by
  obtain ⟨fs, hfs, hfields, -⟩ := conforms_fields.1 h
  obtain rfl := Value.map.inj hfs
  have hget : Entries.get? (es.insert (.str "references") references) "title" =
      es.get? "title" := Entries.get?_insert _ _ _ _
  unfold Entries.Titled Entries.getD
  cases htitle : es.get? "title" with
  | none => exact .inl rfl
  | some v =>
    by_cases hnull : Value.outOf (.map (es.insert (.str "references") references)) 0 v = .null
    · exact .inl (Value.eq_null_of_outOf (by simp) hnull)
    · right
      have hconforms := hfields ("title", text) List.mem_cons_self _
        (present?_members_eq_some.2 ⟨v, hget.trans htitle, rfl, hnull⟩)
      obtain ⟨t, ht⟩ := conforms_text.1 hconforms
      exact ⟨t, by rwa [Value.text?_outOf rfl] at ht⟩

variable {s : Slide} {o : ReferenceOrder} {references : List Entries} {entries : List String}

/-- **Content with a bibliography** fits the packaged template. -/
theorem conforms_listing (hwants : s.wantsBibliography = true) (ho : s.AsksFor o)
    (htitle : Entries.Titled s.content)
    (hreferences : ∀ ref ∈ references, ∀ whole inner m n,
      Conforms referenceSchema (Value.outOf inner n (Value.outOf whole m (.map ref)))) :
    Conforms (.map bibliography.schema) (.map (Entries.listing s.content references entries)) := by
  refine conforms_fields.2 ⟨_, rfl, fun p hp x hx => ?_, fun name hname => by cases hname⟩
  obtain ⟨v, hv, rfl, hnull⟩ := present?_members_eq_some.1 hx
  rw [Entries.get?_listing] at hv
  simp only [List.mem_cons, List.not_mem_nil, or_false] at hp
  rcases hp with rfl | rfl | rfl | rfl
  · have hget : Entries.get? s.content "title" = some v := hv
    rcases htitle with h | ⟨t, ht⟩
    · rw [Entries.getD, hget] at h
      obtain rfl : v = .null := h
      exact absurd rfl hnull
    · rw [Entries.getD, hget] at ht
      exact conforms_text.2 ⟨t, (Value.text?_outOf rfl).trans ht⟩
  · have hget : Entries.get? s.content "autoGenerate" = some v := hv
    unfold Slide.wantsBibliography at hwants
    rw [hget] at hwants
    cases v with
    | bool b => exact conforms_boolean.2 ⟨b, rfl⟩
    | _ => simp at hwants
  · have hget : Entries.get? s.content "sort" = some v := hv
    rcases ho with ⟨h, -⟩ | h
    · rw [Entries.getD, hget] at h
      obtain rfl : v = .null := h
      exact absurd rfl hnull
    · rw [Entries.getD, hget] at h
      refine (conforms_among (List.cons_ne_nil _ _)).2 ⟨o.name, (Value.text?_outOf rfl).trans h, ?_⟩
      cases o <;> simp [ReferenceOrder.name, Value.text?]
  · obtain rfl : Value.list (references.map .map) = v := Option.some.inj hv
    refine (conforms_listOf_nil (by simp [referenceSchema])).2 ⟨_, rfl, fun x hx => ?_⟩
    rw [Value.members, Value.outOfList_eq_map, Value.outOfList_eq_map] at hx
    simp only [List.map_map, List.mem_map] at hx
    obtain ⟨ref, href, rfl⟩ := hx
    exact hreferences ref href _ _ _ _

/-! ### The slide -/

/-- A list of references under a title. -/
def bibliographyText (title : String) (entries : List String) : String :=
  "<!-- _class: bibliography -->\n## " ++ title ++ "\n\n" ++
    String.join (entries.map fun e => "- " ++ e ++ "\n")

theorem part_listing {es : Entries} (name : String) :
    Entries.part (Entries.listing es references entries) name =
      if name = "_generatedEntries" then .list (entries.map .str)
      else if name = "_autoGenerated" then .bool true
      else if name = "references" then .list (references.map .map)
      else es.part name := by
  unfold Entries.part
  rw [Entries.get?_listing]
  split_ifs <;> rfl

theorem listable_listing {es : Entries} (htitle : (es.part "title").direct = true)
    (hempty : entries = [] → references = []) :
    Listable (Entries.listing es references entries) where
  title := by
    rw [part_listing]
    exact htitle
  entries := by
    rw [part_listing]
    rfl
  entry xs hxs x hx := by
    rw [part_listing] at hxs
    cases hxs
    obtain ⟨e, -, rfl⟩ := List.mem_map.1 hx
    rfl
  references := by
    rw [part_listing]
    rfl
  reference hfalse xs hxs x hx := by
    rw [part_listing] at hfalse hxs
    cases entries with
    | nil =>
      obtain rfl := hempty rfl
      cases hxs
      cases hx
    | cons e entries => cases hfalse

theorem bibliographyTalk_listing {es : Entries} (htitle : es.Titled) (hentries : entries ≠ []) :
    bibliographyTalk (Entries.listing es references entries) =
      pure (bibliographyText es.titleText entries) := by
  have htruthy : (Value.list (entries.map .str)).truthy = true := by
    cases entries with
    | nil => exact absurd rfl hentries
    | cons e entries => rfl
  have hover : (Talk.overItems (fun _ entry => return "- " ++ entry.printed ++ "\n")
      (.list (entries.map .str)) : Talk Requests String) =
        return String.join (entries.map fun e => "- " ++ e ++ "\n") := by
    refine (forEach_pure (fun entry => "- " ++ entry.printed ++ "\n") 0 _).trans ?_
    rw [List.map_map]
    rfl
  unfold bibliographyTalk
  rw [part_listing, part_listing, part_listing]
  simp only [if_true, htruthy]
  rw [hover, pure_bind]
  show pure (_ ++ (Value.orElse (es.part "title") (.str "References")).printed ++ _ ++ _) = _
  rw [htitle.printed_part]
  rfl

end Packaged

namespace Press

open Packaged

variable {press : Press} {s : Slide} {o : ReferenceOrder} {references : List Entries}
  {entries : List String}

/-- **A slide with a bibliography** comes out as the list of its entries. -/
theorem ending_layOut_listing (hstep : press.templates.InStep)
    (hget : press.templates.get? bibliographyTemplate = some bibliography)
    (hwants : s.wantsBibliography = true) (ho : s.AsksFor o) (hclass : s.cssClass.getD "" = "")
    (htitle : Entries.Titled s.content) (hentries : entries ≠ [])
    (hreferences : ∀ ref ∈ references, ∀ whole inner m n,
      Schema.Conforms referenceSchema (Value.outOf inner n (Value.outOf whole m (.map ref))))
    (pace : Pace) (place : SlidePlace) :
    (press.layOut pace place (s.listing references entries)).ending =
      .ok (Text.strip (bibliographyText (Entries.titleText s.content) entries)) := by
  have hparse : Template.parse Template.known .slide bibliography.output = .ok bibliographyTree :=
    parse_eq_ok (by simp [trees])
  have hlistable : Listable (Entries.listing s.content references entries) :=
    listable_listing htitle.direct_part fun h => absurd h hentries
  have hrun : run place (Entries.listing s.content references entries) bibliography.output = _ :=
    run_of_amountsTo hparse (bibliography_amounts hlistable)
  rw [bibliographyTalk_listing htitle hentries] at hrun
  have hdraft : press.draft place (s.listing references entries) =
      .ok (bibliographyText (Entries.titleText s.content) entries, Requests.empty) :=
    (draft_eq_ok_iff hstep (by simp [definitions]) (Slide.template_of_wantsBibliography hwants ▸ hget)).2
      ⟨conforms_listing hwants ho htitle hreferences, hrun⟩
  have hraw : ¬ (s.listing references entries).isRaw = true := by
    show ¬ (s.template == rawTemplate) = true
    rw [Slide.template_of_wantsBibliography hwants]
    decide
  have hresolve : (Requests.empty.resolve press pace
      (bibliographyText (Entries.titleText s.content) entries)).ending =
        .ok (bibliographyText (Entries.titleText s.content) entries) :=
    ending_resolve_eq_ok.2 ⟨fun _ hc => absurd hc List.not_mem_nil, rfl⟩
  rw [ending_layOut_of_draft hraw hdraft, hresolve]
  show Except.ok (finished s.cssClass _) = _
  rw [finished, hclass]
  rfl

end Press

/-! ### The run -/

namespace Slide

open Packaged

/-- **Every slide that wants a bibliography** gets one if the references are plain. -/
theorem exists_filled {shelf : Shelf} {ids : List String} {s : Slide} {o : ReferenceOrder}
    (hnodup : ids.Nodup)
    (hplain : ∀ r ∈ shelf.known ids, r.Plain ∧ ∃ id, (r.field "id").text? = some id)
    (hwants : s.wantsBibliography = true) (ho : s.AsksFor o) :
    ∃ references data entries, o.Arranges (shelf.known ids) references ∧
      references.mapM Reference.fullEntry = .ok entries ∧
      s.Filled shelf.source ids (s.listing data entries) ∧
      ∀ ref ∈ data, ∀ whole inner m n,
        Schema.Conforms referenceSchema (Value.outOf inner n (Value.outOf whole m (.map ref))) := by
  obtain ⟨items, entries, hb, harranges, hentries⟩ :=
    Bibliography.exists_generate shelf.holds ho.ofValue_eq fun id hid r hr =>
      (hplain r (List.mem_filterMap.2 ⟨id, hid, hr⟩)).1.attributed
  rw [eraseDups_of_nodup hnodup] at hb harranges
  obtain ⟨data, hdata, hconforms⟩ := Attempt.exists_mapM (R := fun _ ref => ∀ whole inner m n,
      Schema.Conforms referenceSchema (Value.outOf inner n (Value.outOf whole m (.map ref))))
    fun r hr => by
      obtain ⟨hr, id, hid⟩ := hplain r (harranges.perm.mem_iff.1 hr)
      exact hr.exists_templateEntry hid
  refine ⟨items, data, entries, harranges, hentries, .filled hwants hb ?_, ?_⟩
  · rw [withBibliography, Attempt.bind_ok hdata]
    rfl
  · intro ref href
    obtain ⟨-, -, h⟩ := exists_mem_of_forall₂ hconforms.flip ref href
    exact h

end Slide

namespace Compiler

open Packaged

variable {c : Compiler} {d : Deck}

/-- The deck that is laid out: the one with its bibliographies. -/
def filledDeck (describe : Fault → String) (c : Compiler) (d : Deck) : Deck :=
  (d.withBibliographies describe c.config c.source (Citation.ids d.citations)).2

theorem mem_definitions_bibliography : bibliography ∈ definitions := by simp [definitions]

theorem get?_bibliography :
    (Packaged.register Registry.empty).1.get? bibliographyTemplate = some bibliography :=
  get?_register_empty mem_definitions_bibliography

/-- Whether content fits the template of bibliographies. -/
def FitsBibliography (c : Compiler) (content : Entries) : Prop :=
  ∃ v, c.templates.validate bibliographyTemplate (.map content) = .ok v ∧ v.valid = true

theorem fitsBibliography_iff (htemplates : c.templates = (Packaged.register Registry.empty).1)
    (content : Entries) : c.FitsBibliography content ↔
      Schema.Conforms (.map bibliography.schema) (.map content) := by
  obtain ⟨v, hv, hvalid⟩ :=
    (wellFormed_schema mem_definitions_bibliography).exists_validate (.map content)
  rw [FitsBibliography, htemplates, inStep_register_empty.validate_eq, get?_bibliography]
  dsimp only
  rw [hv]
  constructor
  · rintro ⟨_, ⟨⟩, h⟩
    exact hvalid.1 h
  · exact fun h => ⟨v, rfl, hvalid.2 h⟩

/-- In a deck that cites something, all bibliographies are filled in if the references are plain and
the orders exist. -/
theorem exists_filledDeck (describe : Fault → String) {shelf : Shelf} (hsource : c.source = shelf.source)
    (hknown : ∀ r ∈ shelf.known (Citation.ids d.citations),
      r.Plain ∧ ∃ id, (r.field "id").text? = some id)
    (henabled : d.referencesEnabled c.config = true) (hids : Citation.ids d.citations ≠ [])
    (horders : ∀ t ∈ d.slides, t.wantsBibliography = true → ∃ o, t.AsksFor o)
    (hany : d.slides.any Slide.wantsBibliography = true) :
    ∃ out, c.filledDeck describe d = { d with slides := out } ∧
      List.Forall₂ (Slide.Filled shelf.source (Citation.ids d.citations)) d.slides out := by
  obtain ⟨out, hout⟩ : ∃ out, List.Forall₂ (Slide.Filled shelf.source (Citation.ids d.citations))
      d.slides out := exists_forall₂ fun t ht => by
    by_cases h : t.wantsBibliography = true
    · obtain ⟨o, ho⟩ := horders t ht h
      obtain ⟨-, data, entries, -, -, hfilled, -⟩ :=
        Slide.exists_filled (Citation.nodup_ids _) hknown h ho
      exact ⟨_, hfilled⟩
    · exact ⟨t, .kept (by simpa using h)⟩
  refine ⟨out, ?_, hout⟩
  rw [filledDeck, hsource]
  exact Deck.withBibliographies_of_filled hids henabled rfl hany hout

/-- **Bibliographies are complete.** In a deck compiled with the packaged templates and a shelf of
plain references, where every bibliography asks for an order that exists, a slide that wants one and
whose content apart from its references fits has content that fits when it is laid out; only where
nothing is cited its references have to fit as they are written. If a cited reference is known, the
slide comes out as the list of the entries of all cited references that are known, each once, in the
order that it asks for. -/
theorem exists_bibliography (describe : Fault → String) {items : List Value} {shelf : Shelf}
    {i : Nat} {s : Slide} {o : ReferenceOrder}
    (htemplates : c.templates = (Packaged.register Registry.empty).1)
    (hsource : c.source = shelf.source) (hshelf : Shelf.empty.addAll items = .ok shelf)
    (hplain : ∀ es, .map es ∈ items → Reference.Plain ⟨es⟩)
    (henabled : d.referencesEnabled c.config = true)
    (horders : ∀ t ∈ d.slides, t.wantsBibliography = true → ∃ o, t.AsksFor o)
    (hs : d.slides[i]? = some s) (hwants : s.wantsBibliography = true) (ho : s.AsksFor o)
    (hclass : s.cssClass.getD "" = "")
    (hfits : c.FitsBibliography (Entries.insert s.content (.str "references") (.list []))) :
    ∃ s', (c.filledDeck describe d).slides[i]? = some s' ∧ s'.template = s.template ∧
      (Citation.ids d.citations ≠ [] ∨ c.FitsBibliography s.content →
        c.FitsBibliography s'.content) ∧
      ((∃ id ∈ Citation.ids d.citations, (shelf.get? (.str id)).isSome = true) →
        ∃ references entries, (Citation.ids d.citations).Nodup ∧
          o.Arranges (shelf.known (Citation.ids d.citations)) references ∧
          references.mapM Reference.fullEntry = .ok entries ∧
          (∀ pace place, (c.press.layOut pace place s').ending =
            .ok (Text.strip (bibliographyText (Entries.titleText s.content) entries))) ∧
          ∀ r, (c.compile describe d).ending = .ok r → ∃ bodies,
            bodies[i]? = some (Text.strip (bibliographyText (Entries.titleText s.content) entries)) ∧
            bodies.length = d.slides.length ∧
            r.output = Document.render bodies d.info (c.renderOptions (c.filledDeck describe d))) := by
  by_cases hids : Citation.ids d.citations = []
  · -- nothing is cited, and the deck stays as it is
    have hdeck : c.filledDeck describe d = d := by
      rw [filledDeck, Deck.withBibliographies, hids]
      rfl
    refine ⟨s, by rwa [hdeck], rfl, fun h => h.resolve_left (absurd hids), fun ⟨id, hid, _⟩ => ?_⟩
    rw [hids] at hid
    cases hid
  have hknown : ∀ r ∈ shelf.known (Citation.ids d.citations),
      r.Plain ∧ ∃ id, (r.field "id").text? = some id := fun r hr => by
    obtain ⟨id, -, hr⟩ := List.mem_filterMap.1 hr
    rcases Shelf.mem_of_get?_addAll hshelf hr with hr | ⟨hmem, hid⟩
    · cases hr
    · exact ⟨hplain _ hmem, id, hid⟩
  have htitle : Entries.Titled s.content :=
    titled_of_conforms ((fitsBibliography_iff htemplates _).1 hfits)
  obtain ⟨out, hdeck, hout⟩ := exists_filledDeck describe hsource hknown henabled hids horders
    (List.any_eq_true.2 ⟨s, List.mem_of_getElem? hs, hwants⟩)
  have hnodup := Citation.nodup_ids d.citations
  obtain ⟨references, data, entries, harranges, hentries, hfilled, hconforms⟩ :=
    Slide.exists_filled hnodup hknown hwants ho
  obtain ⟨s', hs', hfilled'⟩ := exists_getElem?_of_forall₂ hout hs
  obtain rfl := hfilled'.eq hfilled
  refine ⟨s.listing data entries, by rwa [hdeck], rfl, fun _ => (fitsBibliography_iff htemplates _).2
    (conforms_listing hwants ho htitle hconforms), fun ⟨id, hid, hfound⟩ => ?_⟩
  have hne : entries ≠ [] := by
    obtain ⟨r, hr⟩ := Option.isSome_iff_exists.1 hfound
    have hr : r ∈ references :=
      harranges.perm.mem_iff.2 (List.mem_filterMap.2 ⟨id, hid, hr⟩)
    have hlength := (Attempt.mapM_eq_ok.1 hentries).length_eq
    rintro rfl
    rw [List.length_eq_zero_iff.1 hlength] at hr
    cases hr
  have hstep : c.templates.InStep := htemplates ▸ inStep_register_empty
  have hget : c.templates.get? bibliographyTemplate = some bibliography :=
    htemplates ▸ get?_bibliography
  have hbody : ∀ pace place, (c.press.layOut pace place (s.listing data entries)).ending =
      .ok (Text.strip (bibliographyText (Entries.titleText s.content) entries)) :=
    Press.ending_layOut_listing hstep hget hwants ho hclass htitle hne hconforms
  refine ⟨references, entries, hnodup, harranges, hentries, hbody, fun r hr => ?_⟩
  obtain ⟨-, rfl⟩ := (ending_compile_eq_ok hdeck).1 hr
  refine ⟨(Press.placed { d with slides := out }).map (c.press.bodyWith c.press.answerText),
    ?_, ?_, ?_⟩
  · rw [List.getElem?_map, Press.placed, List.getElem?_mapIdx, hs']
    have hprinted : _ = c.press.bodyWith c.press.answerText
        (⟨d.info, i, out.length⟩, s.listing data entries) :=
      (Press.ending_layOut_eq_ok.1 (hbody Pace.even ⟨d.info, i, out.length⟩)).2
    exact congrArg some hprinted.symm
  · rw [List.length_map, Press.placed, List.length_mapIdx]
    exact hout.length_eq.symm
  · rw [hdeck, document]

/-- An item with one author. -/
def item (id title family given : String) (year : Int) : Entries :=
  Entries.ofNames [("id", .str id), ("title", .str title),
    ("author", .list [.map (Entries.ofNames [("family", .str family), ("given", .str given)])]),
    ("issued", .map (Entries.ofNames [("date-parts", .list [.list [.int year]])]))]

/-- A shelf with two items. -/
def library : Shelf :=
  ⟨[(.str "ants", .map (item "ants" "Ants" "Doe" "Ann" 2021)),
    (.str "bees", .map (item "bees" "Bees" "Roe" "Bo" 2019))]⟩

/-- A compiler that finds its references in the library. -/
def reader : Compiler :=
  ⟨Config.default, (Packaged.register Registry.empty).1, fun _ => .ok "*", library.source⟩

/-- The slide that asks for a bibliography in the order of years. -/
def readingList : Slide :=
  ⟨bibliographyTemplate, Entries.ofNames [("autoGenerate", .bool true), ("sort", .str "year")], none,
    none, none⟩

/-- A deck that cites both items. -/
def reading : Deck :=
  ⟨⟨"Insects", none, none, defaultTheme, none⟩,
    [⟨"two-column", Entries.ofNames [("left", .str "see [@ants]"), ("right", .str "or [@bees; @ants]")],
      none, none, none⟩, readingList]⟩

theorem plain_item (id title family given : String) (year : Int) :
    Reference.Plain ⟨item id title family given year⟩ where
  title := .inr ⟨title, rfl⟩
  journal := .inl rfl
  year v hv := by
    cases hv
    exact .inr ⟨year, rfl⟩
  authors := by
    refine .inr ⟨_, rfl, fun v hv => ?_⟩
    obtain rfl := List.mem_singleton.1 hv
    exact ⟨_, rfl, .inr ⟨family, rfl⟩, .inr ⟨given, rfl⟩⟩

/-- Both items are listed. -/
theorem exists_bibliography_reading : ∃ s' references entries,
    (reader.filledDeck Fault.describe reading).slides[1]? = some s' ∧
      reader.FitsBibliography s'.content ∧
      ReferenceOrder.year.Arranges (library.known ["ants", "bees"]) references ∧
      references.mapM Reference.fullEntry = .ok entries ∧
      ∀ pace place, (reader.press.layOut pace place s').ending =
        .ok (Text.strip (bibliographyText "References" entries)) := by
  have hids : Citation.ids reading.citations = ["ants", "bees"] := by decide +kernel
  have hplain : ∀ es, Value.map es ∈ [Value.map (item "ants" "Ants" "Doe" "Ann" 2021),
      .map (item "bees" "Bees" "Roe" "Bo" 2019)] → Reference.Plain ⟨es⟩ := fun es hes => by
    rcases List.mem_pair.1 hes with h | h <;> cases h <;> exact plain_item _ _ _ _ _
  have horders : ∀ t ∈ reading.slides, t.wantsBibliography = true → ∃ o, t.AsksFor o :=
    fun t ht hwants => by
      rcases List.mem_pair.1 ht with rfl | rfl
      · cases hwants
      · exact ⟨.year, .inr rfl⟩
  have hfits : reader.FitsBibliography
      (Entries.insert readingList.content (.str "references") (.list [])) := by
    obtain ⟨v, hv, hvalid⟩ : ∃ v, (reader.templates.validate bibliographyTemplate
        (.map (Entries.insert readingList.content (.str "references") (.list [])))).toOption = some v ∧
          v.valid = true := Option.map_eq_some_iff.1 (by decide +kernel)
    exact ⟨v, Attempt.eq_ok_of_toOption hv, hvalid⟩
  have hlist : reading.slides[1]? = some readingList := rfl
  have horder : readingList.AsksFor .year := .inr rfl
  have htemplates : reader.templates = (Packaged.register Registry.empty).1 := rfl
  obtain ⟨s', hs', -, hfits', hbody⟩ := exists_bibliography Fault.describe htemplates rfl rfl hplain
    (by decide) horders hlist (by decide) horder rfl hfits
  obtain ⟨references, entries, -, harranges, hentries, hlayOut, -⟩ :=
    hbody ⟨"ants", by rw [hids]; exact List.mem_cons_self, rfl⟩
  rw [hids] at harranges
  exact ⟨s', references, entries, hs', hfits' (.inl (by rw [hids]; simp)), harranges, hentries,
    hlayOut⟩

end Compiler

end SlidePress
