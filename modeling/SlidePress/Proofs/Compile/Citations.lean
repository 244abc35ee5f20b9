import Mathlib.Data.List.Count
import SlidePress.Proofs.Compile.Bibliography
import SlidePress.Proofs.Deck.Data
import SlidePress.Proofs.Layout.Calls
import SlidePress.Proofs.Packaged.Requests

/-! # What is cited and what is looked up

The citations of a deck are collected from its content before the slides are laid out. While they are
laid out, the templates have texts expanded and sources cited, and the names in them are looked up,
by other code. With the packaged templates the two agree (`Compiler.lookups_compileText`) but for the
source of a quote: whatever begins with an at sign is cited, by what stands behind the at signs, but
it is collected only if it is an at sign and a name alone. All other sources stray: they are looked
up, and nobody warns of them if they are not known. -/

namespace SlidePress

open CitationStyle (bareId)

/-- The names that are looked up for a call. -/
def Call.lookups : Call → List String
  | .icon _ => []
  | .cite s => [bareId s]
  | .expand s => Citation.ids (Citation.inText s)

namespace Press

variable {templates : Registry} {icon : IconRequest → Ending IconError String} {st : CitationStyle}
  {source source' : ReferenceSource}

/-- The answer to a call depends on the source through the names that are looked up for it alone. -/
theorem answer_congr {call : Call} (hfind : ∀ id ∈ call.lookups, source.find id = source'.find id)
    (hfindAll : call.lookups ≠ [] → source.findAll call.lookups = source'.findAll call.lookups) :
    (Press.of templates icon st source).answer call =
      (Press.of templates icon st source').answer call := by
  cases call with
  | icon r => rfl
  | cite s =>
    have hcite : st.cite source s = st.cite source' s := by
      rw [CitationStyle.cite, CitationStyle.cite, CitationStyle.byName, CitationStyle.byName,
        hfind (bareId s) (List.mem_singleton_self _)]
    show Except.mapError _ (Ending.ofExcept (st.cite source s)) =
      Except.mapError _ (Ending.ofExcept (st.cite source' s))
    rw [hcite]
  | expand s =>
    have hexpand : st.expand source s = st.expand source' s := by
      rw [st.expand_eq, st.expand_eq]
      split_ifs with hs
      · rfl
      · have hids : (Call.expand s).lookups ≠ [] := fun h =>
          hs (Citation.isEmpty_ids.1 (List.isEmpty_iff.2 h))
        rw [show source.findAll (Citation.ids (Citation.inText s)) = _ from hfindAll hids]
        rfl
    show Except.mapError _ (Ending.ofExcept (st.expand source s)) =
      Except.mapError _ (Ending.ofExcept (st.expand source' s))
    rw [hexpand]

end Press

/-! ### Slides -/

namespace Slide

/-- A slide that is its own text or names a packaged template. -/
def UsesPackaged (templates : Registry) (s : Slide) : Prop :=
  s.isRaw = true ∨
    ∃ t ∈ Packaged.definitions, s.template = t.name ∧ templates.get? t.name = some t

/-- The source of a quote that is cited, but is more than an at sign and a name. -/
structure Strays (s : Slide) (source : String) : Prop where
  template : s.template = Packaged.quote.name
  cites : Packaged.Cites s.content source
  apart : ¬ Citation.NamesAlone source

end Slide

namespace Packaged

/-- The packaged templates have different names. -/
theorem eq_of_name_eq {t u : TemplateDefinition} (ht : t ∈ definitions) (hu : u ∈ definitions)
    (h : t.name = u.name) : t = u :=
  List.inj_on_of_nodup_map (by decide : (definitions.map TemplateDefinition.name).Nodup) ht hu h

end Packaged

theorem Packaged.Cites.exists_mem {es : Entries} {s : String} (h : Packaged.Cites es s) :
    ∃ k, (k, .str s) ∈ es := by
  have hsource := h.source
  unfold Entries.part at hsource
  cases hget : es.get? "source" with
  | none =>
    rw [hget] at hsource
    cases hsource
  | some v =>
    rw [hget] at hsource
    obtain rfl : v = .str s := hsource
    exact Entries.mem_of_find? hget

/-- A bibliography has an entry for each of its references. -/
theorem Bibliography.length_entries {source : ReferenceSource} {ids : List String} {order : Value}
    {b : Bibliography} (h : generate source ids order = .ok b) :
    b.items.length = b.entries.length := by
  unfold generate at h
  dsimp only at h
  split_ifs at h
  · cases h
    rfl
  · obtain ⟨found, -, h⟩ := Attempt.bind_eq_ok.1 h
    obtain ⟨items, -, h⟩ := Attempt.bind_eq_ok.1 h
    obtain ⟨entries, hentries, h⟩ := Attempt.bind_eq_ok.1 h
    cases h
    cases hwritten : items.mapM Reference.fullEntry with
    | error e =>
      rw [hwritten] at hentries
      cases hentries
    | ok entries' =>
      rw [hwritten] at hentries
      cases hentries
      exact (Attempt.mapM_eq_ok.1 hwritten).length_eq

namespace Press

open Packaged

variable {press : Press} {place : SlidePlace} {s : Slide} {draft : String} {r : Requests}

/-- The calls of a slide with a draft. -/
theorem callsOf_of_draft (hraw : s.isRaw = false) (h : press.draft place s = .ok (draft, r)) :
    press.callsOf (place, s) = callsFor r := by
  unfold callsOf
  simp only [hraw, Bool.false_eq_true, if_false, h]

/-- A slide that leads to a call has a draft with the request for it. -/
theorem exists_draft_of_mem_callsOf {call : Call} (h : call ∈ press.callsOf (place, s)) :
    s.isRaw = false ∧ ∃ draft r, press.draft place s = .ok (draft, r) ∧ call ∈ callsFor r := by
  unfold callsOf at h
  split_ifs at h with hraw
  · cases h
  · refine ⟨by simpa using hraw, ?_⟩
    cases hdraft : press.draft place s with
    | error e =>
      rw [hdraft] at h
      cases h
    | ok p =>
      rw [hdraft] at h
      exact ⟨p.1, p.2, rfl, h⟩

theorem cite_mem_callsFor {id : String} : .cite id ∈ callsFor r ↔ id ∈ r.cites := by
  simp [callsFor, Requests.calls]

theorem expand_mem_callsFor {s : String} : .expand s ∈ callsFor r ↔ s ∈ r.expands := by
  simp [callsFor, Requests.calls]

section

variable (hstep : press.templates.InStep) (hs : s.UsesPackaged press.templates)
include hstep hs

/-- The draft of a slide that is not raw is that of a packaged template on content that fits. -/
theorem exists_run_of_draft (hraw : s.isRaw = false)
    (hdraft : press.draft place s = .ok (draft, r)) :
    ∃ t ∈ definitions, s.template = t.name ∧
      Schema.Conforms (.map t.schema) (.map s.content) ∧
      Press.run place s.content t.output = .ok (draft, r) := by
  obtain ⟨t, ht, hname, hget⟩ := hs.resolve_left (by simp [hraw])
  exact ⟨t, ht, hname, (draft_eq_ok_iff hstep ht (hname ▸ hget)).1 hdraft⟩

/-- **The names that are looked up for a slide** are collected from its content, or the slide cites a
stray source. -/
theorem lookups_of_callsOf (hdata : (Value.map s.content).isData = true)
    (hnests : Value.nestsEntries s.content = false) {call : Call}
    (hcall : call ∈ press.callsOf (place, s)) {id : String} (hid : id ∈ call.lookups) :
    id ∈ (Citation.inEntries s.content).map Citation.id ∨
      ∃ source, s.Strays source ∧ id = bareId source := by
  obtain ⟨hraw, draft, r, hdraft, hcall⟩ := exists_draft_of_mem_callsOf hcall
  obtain ⟨t, ht, hname, hconforms, hrun⟩ := exists_run_of_draft hstep hs hraw hdraft
  obtain ⟨hexpands, hcites⟩ := requests_of_run ht hdata hnests hconforms hrun
  cases call with
  | icon i => cases hid
  | expand text =>
    obtain ⟨c, hc, rfl⟩ := List.mem_map.1 (Citation.mem_ids.1 hid)
    exact .inl (List.mem_map_of_mem (hexpands _ (expand_mem_callsFor.1 hcall) hc))
  | cite source =>
    obtain rfl := List.mem_singleton.1 hid
    obtain ⟨rfl, hcited⟩ := (hcites source).1 (cite_mem_callsFor.1 hcall)
    by_cases hwhole : Citation.NamesAlone source
    · -- the source is collected as a citation of the same name
      left
      obtain ⟨k, hk⟩ := hcited.exists_mem
      refine List.map_subset _ (Citation.inField_subset_inEntries hk) ?_
      rw [Citation.map_id_inField (Citation.wholeId?_eq_bareId_iff.2 hwhole)]
      exact List.mem_singleton_self _
    · exact .inr ⟨source, ⟨hname, hcited, hwhole⟩, rfl⟩

/-- **A stray source** is looked up. -/
theorem cite_mem_callsOf_of_strays (hdata : (Value.map s.content).isData = true)
    (hnests : Value.nestsEntries s.content = false) (hdrafted : press.Drafted (place, s))
    {source : String} (h : s.Strays source) : .cite source ∈ press.callsOf (place, s) := by
  have hraw : s.isRaw = false := by
    rw [Slide.isRaw, h.template]
    decide
  obtain ⟨⟨draft, r⟩, hdraft⟩ := hdrafted.resolve_left (by simp [hraw])
  obtain ⟨t, ht, hname, hconforms, hrun⟩ := exists_run_of_draft hstep hs hraw hdraft
  obtain rfl : t = Packaged.quote :=
    eq_of_name_eq ht (by simp [definitions]) (hname.symm.trans h.template)
  obtain ⟨-, hcites⟩ := requests_of_run ht hdata hnests hconforms hrun
  rw [callsOf_of_draft hraw hdraft]
  exact cite_mem_callsFor.2 ((hcites source).2 ⟨rfl, h.cites⟩)

/-- Nothing is looked up for a slide whose bibliography has been filled in. -/
theorem lookups_of_filled (hdata : (Value.map s.content).isData = true)
    {source : ReferenceSource} {ids : List String} {s' : Slide} {b : Bibliography}
    (hwants : s.wantsBibliography = true)
    (hb : Bibliography.generate source ids s.bibliographyOrder = .ok b)
    (hs' : s.withBibliography b = .ok s') {call : Call} (hcall : call ∈ press.callsOf (place, s')) :
    call.lookups = [] := by
  obtain ⟨references, hreferences, h⟩ := Attempt.bind_eq_ok.1 hs'
  cases h
  obtain ⟨hraw, draft, r, hdraft, hcall⟩ := exists_draft_of_mem_callsOf hcall
  obtain ⟨t, ht, hname, -, hrun⟩ := exists_run_of_draft hstep
    (s := s.listing references b.entries) hs hraw hdraft
  have htemplate : s.template = bibliographyTemplate := Slide.template_of_wantsBibliography hwants
  obtain rfl : t = bibliography :=
    eq_of_name_eq ht (by simp [definitions]) (hname.symm.trans htemplate)
  have hlistable : Listable (Entries.listing s.content references b.entries) :=
    listable_listing (Entries.direct_part hdata "title") fun hempty => by
      have hlength := (Attempt.mapM_eq_ok.1 hreferences).length_eq
      rw [Bibliography.length_entries hb, hempty] at hlength
      exact List.length_eq_zero_iff.1 hlength.symm
  obtain ⟨hcites, hexpands⟩ := requests_of_amountsTo (parse_eq_ok (by simp [trees]))
    (bibliography_amounts hlistable) (asks_bibliographyTalk _) hrun
  cases call with
  | icon i => rfl
  | cite source =>
    have hmem : source ∈ r.cites := cite_mem_callsFor.1 hcall
    rw [hcites] at hmem
    cases hmem
  | expand text =>
    have hmem : text ∈ r.expands := expand_mem_callsFor.1 hcall
    rw [hexpands] at hmem
    cases hmem

end

end Press

/-! ### Decks -/

namespace Deck

variable {describe : Fault → String} {c : Config} {ids : List String} {d : Deck}

/-- The slides of a deck with its bibliographies are those of the deck, as they are or filled. -/
theorem exists_filled_slides (describe : Fault → String) (c : Config) (source : ReferenceSource)
    (ids : List String) (d : Deck) :
    ∃ out, (d.withBibliographies describe c source ids).2 = { d with slides := out } ∧
      List.Forall₂ (fun s s' => s' = s ∨ s.Filled source ids s') d.slides out := by
  have hsame : List.Forall₂ (fun s s' => s' = s ∨ s.Filled source ids s') d.slides d.slides :=
    List.forall₂_same.2 fun s _ => .inl rfl
  unfold withBibliographies
  split_ifs
  · exact ⟨d.slides, rfl, hsame⟩
  · rcases hfill : fillBibliographies source ids d.slides with ⟨warnings, e | slides⟩
    · exact ⟨d.slides, rfl, hsame⟩
    · have hslides := fillBibliographies_eq_ok.1 (congrArg Prod.snd hfill)
      exact ⟨slides, rfl, hslides.imp fun _ _ h => .inr h⟩

/-- The warning about a reference that is not found. -/
def notFound (id : String) : String := "Reference not found: " ++ id

theorem notFound_injective : Function.Injective notFound := fun _ _ h =>
  (String.append_right_inj _).1 h

theorem missingWarning_ne (id id' : String) :
    "Bibliography: reference not found: " ++ id' ≠ notFound id :=
  append_ne_append (x := 'B') (y := 'R') rfl rfl (by decide) id' id

theorem failureWarning_ne (id report : String) :
    "Failed to auto-generate bibliography: " ++ report ≠ notFound id :=
  append_ne_append (x := 'F') (y := 'R') rfl rfl (by decide) report id

/-- Making bibliographies warns of no reference in this way. -/
theorem notFound_not_mem_fillBibliographies (source : ReferenceSource) (ids : List String)
    (id : String) (ss : List Slide) : notFound id ∉ (fillBibliographies source ids ss).1 := by
  induction ss with
  | nil => exact List.not_mem_nil
  | cons s ss ih =>
    have hmissing (b : Bibliography) : notFound id ∉ missingWarnings b := fun h => by
      obtain ⟨id', -, h⟩ := List.mem_map.1 h
      exact missingWarning_ne id id' h
    unfold fillBibliographies
    split
    · split
      · exact List.not_mem_nil
      · split
        · exact hmissing _
        · exact fun h => (List.mem_append.1 h).elim (hmissing _) ih
    · exact ih

theorem notFound_not_mem_withBibliographies (describe : Fault → String) (c : Config)
    (source : ReferenceSource) (ids : List String) (d : Deck) (id : String) :
    notFound id ∉ (d.withBibliographies describe c source ids).1 := by
  have hfill := notFound_not_mem_fillBibliographies source ids id d.slides
  unfold withBibliographies
  split_ifs
  · exact List.not_mem_nil
  · rcases h : fillBibliographies source ids d.slides with ⟨warnings, e | slides⟩ <;>
      rw [h] at hfill
    · exact fun h => (List.mem_append.1 h).elim hfill fun h =>
        failureWarning_ne id _ (List.mem_singleton.1 h).symm
    · exact hfill

/-- **Each name that is cited and not known** is warned of once. -/
theorem count_notFound_referenceWarnings {shelf : Shelf} (hids : ids.Nodup)
    (henabled : d.referencesEnabled c = true) (id : String) :
    (d.referenceWarnings describe c shelf.source ids).count (notFound id) =
      if id ∈ ids ∧ shelf.get? (.str id) = none then 1 else 0 := by
  have hlookup : ∀ id ∈ ids, ((shelf.findAll ids).lookup id).isNone =
      decide (shelf.get? (.str id) = none) := fun id hid => by
    rw [shelf.lookup_findAll hid]
    cases shelf.get? (.str id) <;> simp
  have hwarnings : d.referenceWarnings describe c shelf.source ids =
      (ids.filter fun id => decide (shelf.get? (.str id) = none)).map notFound := by
    unfold referenceWarnings
    rw [henabled]
    cases hempty : ids.isEmpty with
    | true =>
      rw [List.isEmpty_iff.1 hempty]
      rfl
    | false => exact congrArg (List.map notFound) (List.filter_congr hlookup)
  rw [hwarnings, List.count_map_of_injective _ _ notFound_injective, (hids.filter _).count]
  simp [List.mem_filter]

end Deck

/-! ### The run -/

namespace Compiler

open Citation

variable {c : Compiler} {describe : Fault → String} {d : Deck} {r : Compilation}

/-- **A compilation that returns** has made the calls that the slides lead to, with the
bibliographies filled in. -/
theorem made_compile (h : (c.compile describe d).ending = .ok r) :
    (c.compile describe d).calls.map Prod.snd = c.callsOf (c.filledDeck describe d) := by
  unfold compile at h ⊢
  split_ifs at h ⊢
  · obtain ⟨bodies, hbodies, -⟩ := finish_eq_ok.1 h
    exact Press.made_layOutAt hbodies

theorem compileText_of_ofText {text : String} (h : Deck.ofText text = .ok d) :
    c.compileText describe text = c.compile describe d := by
  rw [compileText, h]
  rfl

/-- The warnings of a compilation that returns. -/
theorem warnings_eq (h : (c.compile describe d).ending = .ok r) : r.warnings =
    d.referenceWarnings describe c.config c.source (ids d.citations) ++
      (d.withBibliographies describe c.config c.source (ids d.citations)).1 := by
  rw [warnings_of_compile describe c d r h]
  unfold compile at h ⊢
  split_ifs at h ⊢
  · rfl

/-- A call of a deck with its bibliographies comes from a slide of the deck. -/
theorem exists_slide_of_mem_callsOf {call : Call} (h : call ∈ c.callsOf (c.filledDeck describe d)) :
    ∃ s ∈ d.slides, ∃ s' place, (s' = s ∨ s.Filled c.source (ids d.citations) s') ∧
      call ∈ c.press.callsOf (place, s') := by
  obtain ⟨out, hout, hslides⟩ :=
    Deck.exists_filled_slides describe c.config c.source (ids d.citations) d
  rw [filledDeck, hout] at h
  obtain ⟨x, hx, hcall⟩ := List.mem_flatMap.1 h
  obtain ⟨i, hi, rfl⟩ := List.mem_mapIdx.1 hx
  obtain ⟨s, hs, hfilled⟩ := exists_mem_of_forall₂ hslides.flip out[i] (List.getElem_mem hi)
  exact ⟨s, hs, _, _, hfilled, hcall⟩

/-- A slide that wants no bibliography stays in the deck. -/
theorem exists_placed (describe : Fault → String) (c : Compiler) {s : Slide} (hs : s ∈ d.slides)
    (h : s.wantsBibliography = false) :
    ∃ place, (place, s) ∈ Press.placed (c.filledDeck describe d) := by
  obtain ⟨out, hout, hslides⟩ :=
    Deck.exists_filled_slides describe c.config c.source (ids d.citations) d
  obtain ⟨s', hs', hfilled⟩ := exists_mem_of_forall₂ hslides s hs
  obtain rfl : s' = s := by
    rcases hfilled with rfl | hfilled
    · rfl
    · exact hfilled.eq (.kept h)
  obtain ⟨i, hi, hget⟩ := List.getElem_of_mem hs'
  rw [filledDeck, hout]
  exact ⟨⟨d.info, i, out.length⟩, List.mem_mapIdx.2 ⟨i, hi, by rw [hget]⟩⟩

/-- **What is looked up is cited, but for stray sources.** In a deck with packaged templates and a
shelf of references, every name that is looked up while the slides are laid out is among the
citations of the compiled deck, or it is that of a quote's source which strays; and the source of
every such quote is looked up. A name that is cited and not known is warned of once, and no other
name at all. -/
theorem lookups_compileText (describe : Fault → String) {shelf : Shelf} {text : String}
    (hsource : c.source = shelf.source) (hstep : c.templates.InStep)
    (hd : Deck.ofText text = .ok d) (henabled : d.referencesEnabled c.config = true)
    (hslides : ∀ s ∈ d.slides, s.UsesPackaged c.templates)
    (hr : (c.compileText describe text).ending = .ok r) :
    (∀ p ∈ (c.compileText describe text).calls, ∀ id ∈ p.2.lookups,
        id ∈ r.citations ∨ ∃ s ∈ d.slides, ∃ source, s.Strays source ∧ id = bareId source) ∧
      (∀ s ∈ d.slides, ∀ source, s.Strays source →
        ∃ p ∈ (c.compileText describe text).calls, bareId source ∈ p.2.lookups) ∧
      ∀ id, r.warnings.count (Deck.notFound id) =
        if id ∈ r.citations ∧ shelf.get? (.str id) = none then 1 else 0 := by
  rw [compileText_of_ofText hd] at hr ⊢
  have hcalls := made_compile hr
  have hdata := Deck.isData_of_ofText hd
  obtain ⟨⟨hnests, hdrafted, -⟩, hcompiled⟩ := (ending_compile_eq_ok rfl).1 hr
  have hcitations : r.citations = ids d.citations := by rw [hcompiled]
  have hunnested : ∀ s ∈ d.slides, Value.nestsEntries s.content = false := by
    simpa using hnests
  refine ⟨fun p hp id hid => ?_, fun s hs source hstray => ?_, fun id => ?_⟩
  · have hcall : p.2 ∈ c.callsOf (c.filledDeck describe d) := hcalls ▸ List.mem_map_of_mem hp
    obtain ⟨s, hs, s', place, hfilled, hcall⟩ := exists_slide_of_mem_callsOf hcall
    have hkept (hcall : p.2 ∈ c.press.callsOf (place, s)) : id ∈ r.citations ∨
        ∃ s ∈ d.slides, ∃ source, s.Strays source ∧ id = bareId source := by
      rcases Press.lookups_of_callsOf hstep (hslides s hs) (hdata s hs) (hunnested s hs) hcall hid
        with h | ⟨source, hstray, hsource⟩
      · exact .inl (hcitations ▸ Deck.mem_ids_citations hs h)
      · exact .inr ⟨s, hs, source, hstray, hsource⟩
    rcases hfilled with rfl | hfilled
    · exact hkept hcall
    · cases hfilled with
      | kept => exact hkept hcall
      | filled hwants hb hs' =>
        rw [Press.lookups_of_filled hstep (hslides s hs) (hdata s hs) hwants hb hs' hcall] at hid
        cases hid
  · have hwants : s.wantsBibliography = false := by
      unfold Slide.wantsBibliography
      rw [hstray.template]
      rfl
    obtain ⟨place, hplaced⟩ := exists_placed describe c hs hwants
    have hcall := Press.cite_mem_callsOf_of_strays hstep (hslides s hs) (hdata s hs)
      (hunnested s hs) (hdrafted _ hplaced) hstray
    have hmem : .cite source ∈ (c.compile describe d).calls.map Prod.snd :=
      hcalls ▸ List.mem_flatMap.2 ⟨_, hplaced, hcall⟩
    obtain ⟨p, hp, hpcall⟩ := List.mem_map.1 hmem
    exact ⟨p, hp, hpcall ▸ List.mem_singleton_self _⟩
  · have hsecond := List.count_eq_zero.2
      (Deck.notFound_not_mem_withBibliographies describe c.config c.source (ids d.citations) d id)
    rw [warnings_eq hr, List.count_append, hsecond, hsource, hcitations]
    exact Deck.count_notFound_referenceWarnings (nodup_ids _) henabled id

/-- A compiler without references. -/
def quoting : Compiler :=
  ⟨Config.default, (Packaged.register Registry.empty).1, fun _ => .ok "*", Shelf.empty.source⟩

/-- A deck with a quote whose source has a colon in its name. -/
def quotation : String :=
  "meta: \x7btitle: T\x7d\nslides:\n- template: quote\n  content:\n    text: q\n    author: a\n" ++
    "    source: '@smith:2024'\n"

/-- The source of the quote strays. -/
theorem lookups_compileText_quotation : ∃ d r, Deck.ofText quotation = .ok d ∧
    (quoting.compileText Fault.describe quotation).ending = .ok r ∧ r.citations = [] ∧
      (∃ p ∈ (quoting.compileText Fault.describe quotation).calls, "smith:2024" ∈ p.2.lookups) ∧
      (∃ s ∈ d.slides, ∃ source, s.Strays source ∧ "smith:2024" = bareId source) ∧
      r.warnings.count (Deck.notFound "smith:2024") = 0 := by
  obtain ⟨d, hd, hdeck⟩ : ∃ d, (Deck.ofText quotation).toOption = some d ∧
      (d.referencesEnabled quoting.config, d.slides.map Slide.template) = (true, ["quote"]) :=
    Option.map_eq_some_iff.1 (by decide +kernel)
  have hrun : ((quoting.compileText Fault.describe quotation).ending.toOption.map
        Compilation.citations,
      (quoting.compileText Fault.describe quotation).calls.flatMap fun p => p.2.lookups) =
        (some [], ["smith:2024"]) := by
    decide +kernel
  obtain ⟨hending, hlookups⟩ := Prod.mk.inj hrun
  obtain ⟨r, hr, hcitations⟩ := Option.map_eq_some_iff.1 hending
  replace hd := Attempt.eq_ok_of_toOption hd
  replace hr := Attempt.eq_ok_of_toOption hr
  obtain ⟨henabled, htemplates⟩ := Prod.mk.inj hdeck
  have hslides : ∀ s ∈ d.slides, s.UsesPackaged quoting.templates := fun s hs => by
    have hquote : Packaged.quote ∈ Packaged.definitions := by simp [Packaged.definitions]
    have htemplate : s.template ∈ ["quote"] := htemplates ▸ List.mem_map_of_mem hs
    exact .inr ⟨_, hquote, List.mem_singleton.1 htemplate, Packaged.get?_register_empty hquote⟩
  obtain ⟨hcited, -, hwarned⟩ := lookups_compileText Fault.describe rfl
    Packaged.inStep_register_empty hd henabled hslides hr
  obtain ⟨p, hp, hid⟩ := List.mem_flatMap.1 (hlookups ▸ List.mem_singleton_self "smith:2024")
  refine ⟨d, r, hd, hr, hcitations, ⟨p, hp, hid⟩, ?_, ?_⟩
  · exact (hcited p hp _ hid).resolve_left (by rw [hcitations]; exact List.not_mem_nil)
  · rw [hwarned, hcitations]
    rfl

end Compiler

end SlidePress
