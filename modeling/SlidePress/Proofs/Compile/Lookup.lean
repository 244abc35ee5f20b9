import SlidePress.Compile.Basic
import SlidePress.Proofs.Citation.Expansion
import SlidePress.Proofs.Distinct
import SlidePress.Proofs.Layout.Answered

/-! # Compiling without references

A source of references that is unavailable, or fails whenever it is asked for several references,
stops neither the look-up of the cited references nor the bibliographies: both leave the deck as it
is written (`withBibliographies_of_mute`). What it can stop is the layout of a slide, where nobody
stands between the source and the text that is expanded. So such a run returns exactly if the slides
of the deck as written have drafts and every call they lead to is answered (`compileText_mute`).
Beside a run with an empty shelf, where every text is expanded (`exists_expand_empty`), it then
differs in warnings and answers only, unless the deck wants a bibliography: the empty shelf fills in
an empty one, and a mute source leaves what was written by hand. -/

namespace SlidePress

open Attempt (bind_eq_ok)

/-! ### Sources -/

namespace ReferenceSource

/-- A source that is unavailable, or fails whenever it is asked for several references. -/
def Mute (source : ReferenceSource) : Prop :=
  source.available = false ∨ ∀ ids, ∃ e, source.findAll ids = .error e

/-- A source that fails whenever it is asked for several references, and knows no single one. -/
structure Failing (source : ReferenceSource) : Prop where
  find_eq : ∀ id, source.find id = .ok none
  findAll_eq : ∀ ids, ∃ e, source.findAll ids = .error e

theorem Failing.mute {source : ReferenceSource} (h : source.Failing) : source.Mute :=
  .inr h.findAll_eq

end ReferenceSource

theorem Shelf.find_empty (id : String) : Shelf.empty.source.find id = .ok none := rfl

/-! ### Texts -/

namespace CitationStyle

variable (st : CitationStyle) {source : ReferenceSource}

theorem cite_of_find {s : String} (h : source.find (bareId s) = .ok none) :
    st.cite source s = .ok (unknown (bareId s)) := by
  rw [cite, byName, Attempt.bind_ok h]
  rfl

/-- A text without citations is left as it is, and the source is not asked. -/
theorem expand_of_inText_eq_nil (source : ReferenceSource) {s : String}
    (h : Citation.inText s = []) : st.expand source s = .ok s := by
  rw [expand_eq, if_pos h]

/-- Names that are not known can always be written. -/
theorem exists_written_none (g : Citation.Group) :
    ∃ cs, st.written (fun _ => none) g = .ok cs := by
  have hids : (g.ids.mapM fun id => (.ok (unknown id) : Attempt String)) =
      .ok (g.ids.map unknown) := Attempt.mapM_eq_ok_iff_map.2 (by rw [List.map_map]; rfl)
  exact ⟨_, by rw [written, Attempt.bind_ok hids]; rfl⟩

/-- With an empty shelf every text is expanded. -/
theorem exists_expand_empty (s : String) : ∃ a, st.expand Shelf.empty.source s = .ok a := by
  obtain ⟨rs, hrs⟩ := Attempt.exists_map_ok fun g (_ : g ∈ Citation.groups (Citation.inText s)) =>
    st.exists_written_none g
  have hspliced : st.spliced (fun _ => none) s = .ok _ :=
    Attempt.bind_ok (Attempt.mapM_eq_ok_iff_map.2 hrs) _
  have hexpand : st.expand Shelf.empty.source s =
      Lookup.ofAttempt (st.spliced (fun _ => none) s) := st.expand_shelf Shelf.empty s
  rw [hexpand, hspliced]
  exact ⟨_, rfl⟩

/-- A failing source expands exactly the texts without citations. -/
theorem exists_expand_failing_iff (h : source.Failing) (s : String) :
    (∃ a, st.expand source s = .ok a) ↔ Citation.inText s = [] := by
  refine ⟨fun ⟨a, ha⟩ => ?_, fun hs => ⟨s, st.expand_of_inText_eq_nil source hs⟩⟩
  by_contra hs
  obtain ⟨e, he⟩ := h.findAll_eq (Citation.ids (Citation.inText s))
  rw [expand_eq, if_neg hs, he] at ha
  cases ha

end CitationStyle

/-! ### Bibliographies -/

namespace Deck

/-- Whether a deck wants a bibliography and has citations to make it of. -/
def wantsBibliography (c : Config) (d : Deck) : Bool :=
  !(Citation.ids d.citations).isEmpty && d.referencesEnabled c && d.slides.any Slide.wantsBibliography

theorem withBibliographies_of_not_wants {describe : Fault → String} {c : Config} {d : Deck}
    (h : d.wantsBibliography c = false) (source : ReferenceSource) :
    (d.withBibliographies describe c source (Citation.ids d.citations)).2 = d := by
  unfold withBibliographies
  rw [if_pos]
  unfold wantsBibliography at h
  cases hids : (Citation.ids d.citations).isEmpty <;> cases henabled : d.referencesEnabled c <;>
    simp_all

/-- If references cannot be found, no bibliography is filled in. -/
theorem exists_fillBibliographies_error {source : ReferenceSource}
    (h : ∀ ids, ∃ e, source.findAll ids = .error e) {ids : List String} (hids : ids ≠ []) :
    ∀ {slides : List Slide}, slides.any Slide.wantsBibliography = true →
      ∃ e, (fillBibliographies source ids slides).2 = .error e
  | s :: slides, hany => by
    unfold fillBibliographies
    by_cases hs : s.wantsBibliography = true
    · obtain ⟨e, he⟩ := h ids.eraseDups
      have hgenerate : Bibliography.generate source ids s.bibliographyOrder = .error e := by
        unfold Bibliography.generate
        dsimp only
        rw [isEmpty_eraseDups hids, he]
        rfl
      rw [if_pos hs, hgenerate]
      exact ⟨e, rfl⟩
    · have hrest : slides.any Slide.wantsBibliography = true := by
        rw [List.any_cons] at hany
        simpa [hs] using hany
      obtain ⟨e, he⟩ := exists_fillBibliographies_error h hids hrest
      rw [if_neg hs]
      dsimp only
      rw [he]
      exact ⟨e, rfl⟩

/-- **A mute source leaves the deck as it is written.** -/
theorem withBibliographies_of_mute {describe : Fault → String} {c : Config}
    {source : ReferenceSource} (h : source.Mute) (ids : List String) (d : Deck) :
    (d.withBibliographies describe c source ids).2 = d := by
  unfold withBibliographies
  split_ifs with hskip
  · rfl
  · simp only [Bool.or_eq_true, not_or, Bool.not_eq_true', Bool.not_eq_true,
      Bool.not_eq_false] at hskip
    obtain ⟨⟨⟨hids, -⟩, havailable⟩, hany⟩ := hskip
    have hfind : ∀ ids, ∃ e, source.findAll ids = .error e := by
      rcases h with h | h
      · rw [h] at havailable
        cases havailable
      · exact h
    have hne : ids ≠ [] := by
      rintro rfl
      cases hids
    obtain ⟨e, he⟩ := exists_fillBibliographies_error hfind hne hany
    rcases hfill : fillBibliographies source ids d.slides with ⟨warnings, _ | slides⟩
    · rfl
    · rw [hfill] at he
      cases he

end Deck

/-! ### Slides -/

namespace Press

variable {press : Press}

/-- A body depends only on what its own calls are answered with. -/
theorem bodyWith_congr {print print' : Call → String} {x : SlidePlace × Slide}
    (h : ∀ c ∈ press.callsOf x, print c = print' c) :
    press.bodyWith print x = press.bodyWith print' x := by
  unfold bodyWith
  unfold callsOf at h
  split_ifs with hraw
  · rfl
  · rw [if_neg hraw] at h
    cases hdraft : press.draft x.1 x.2 with
    | error e => rfl
    | ok p =>
      rw [hdraft] at h
      simp only [callsFor, List.forall_mem_append] at h
      simp only [filledWith, List.map_congr_left h.1, List.map_congr_left h.2.1,
        List.map_congr_left h.2.2]

variable {templates : Registry} {icon : IconRequest → Ending IconError String}
  {st : CitationStyle} {source : ReferenceSource}

theorem answer_cite_of_eq_ok {id a : String} (h : st.cite source id = .ok a) :
    (Press.of templates icon st source).answer (.cite id) = .ok a := by
  show Except.mapError _ (Ending.ofExcept (st.cite source id)) = _
  rw [h]
  rfl

theorem answer_expand_eq_ok {s a : String} :
    (Press.of templates icon st source).answer (.expand s) = .ok a ↔
      st.expand source s = .ok a := by
  show Except.mapError _ (Ending.ofExcept (st.expand source s)) = _ ↔ _
  cases st.expand source s with
  | error e => exact iff_of_false (fun h => by cases h) fun h => by cases h
  | ok b => exact ⟨fun h => by cases h; rfl, fun h => by cases h; rfl⟩

end Press

/-! ### Runs -/

namespace Compiler

variable {describe : Fault → String} {c : Compiler} {source : ReferenceSource}

/-- The same compiler with another source of references. -/
def withSource (c : Compiler) (source : ReferenceSource) : Compiler := { c with source := source }

/-- The document of a deck, where `print` gives what calls are answered with. -/
def document (c : Compiler) (print : Call → String) (d : Deck) : String :=
  Document.render ((Press.placed d).map (c.press.bodyWith print)) d.info (c.renderOptions d)

/-- Whether the slides of a deck have drafts. -/
def Drafted (c : Compiler) (d : Deck) : Prop := ∀ x ∈ Press.placed d, c.press.Drafted x

/-- The calls that the slides of a deck lead to. -/
def callsOf (c : Compiler) (d : Deck) : List Call := (Press.placed d).flatMap c.press.callsOf

theorem finish_eq_ok {ids warnings : List String} {d : Deck}
    {ending : Ending SlideError (List String)} {r : Compilation} :
    c.finish ids warnings d ending = .ok r ↔ ∃ bodies, ending = .ok bodies ∧
      r = ⟨Document.render bodies d.info (c.renderOptions d), ids, warnings, d.slides.length⟩ := by
  rcases ending with ⟨e | _⟩ | bodies
  · exact iff_of_false (fun h => by cases h) fun ⟨_, h, _⟩ => by cases h
  · exact iff_of_false (fun h => by cases h) fun ⟨_, h, _⟩ => by cases h
  · exact ⟨fun h => ⟨bodies, rfl, (Except.ok.inj h).symm⟩, fun ⟨_, h, hr⟩ => by cases h; rw [hr]; rfl⟩

/-- What a slide needs to be laid out, for all slides of a deck. -/
theorem forall_placed_iff {d : Deck} :
    (∀ x ∈ Press.placed d, c.press.Drafted x ∧ ∀ call ∈ c.press.callsOf x, c.press.Answers call) ↔
      c.Drafted d ∧ ∀ call ∈ c.callsOf d, c.press.Answers call := by
  simp only [Drafted, callsOf, List.mem_flatMap]
  constructor
  · exact fun h => ⟨fun x hx => (h x hx).1, fun call ⟨x, hx, hcall⟩ => (h x hx).2 call hcall⟩
  · exact fun h x hx => ⟨h.1 x hx, fun call hcall => h.2 call ⟨x, hx, hcall⟩⟩

/-- **A deck is compiled** exactly if it is not nested in itself, its slides have drafts, and the
calls they lead to are answered, after the bibliographies have been filled in. -/
theorem ending_compile_eq_ok {d d' : Deck} {r : Compilation}
    (hd : (d.withBibliographies describe c.config c.source (Citation.ids d.citations)).2 = d') :
    (c.compile describe d).ending = .ok r ↔
      ((d.slides.any fun s => Value.nestsEntries s.content) = false ∧ c.Drafted d' ∧
        ∀ call ∈ c.callsOf d', c.press.Answers call) ∧
      r = ⟨c.document c.press.answerText d', Citation.ids d.citations,
        (c.compile describe d).warnings, d'.slides.length⟩ := by
  subst hd
  unfold compile
  split_ifs with hnests
  · exact iff_of_false (fun h => by cases h) fun h => by simp [hnests] at h
  · dsimp only
    rw [finish_eq_ok]
    simp only [Press.layOutDeck, Press.ending_layOutAt_eq_ok, forall_placed_iff,
      Bool.eq_false_iff.2 hnests, true_and]
    constructor
    · rintro ⟨bodies, ⟨h, rfl⟩, rfl⟩
      exact ⟨h, rfl⟩
    · rintro ⟨h, rfl⟩
      exact ⟨_, ⟨h, rfl⟩, rfl⟩

theorem compileText_eq_ok {s : String} {r : Compilation} :
    (c.compileText describe s).ending = .ok r ↔
      ∃ d, Deck.ofText s = .ok d ∧ (c.compile describe d).ending = .ok r := by
  unfold compileText
  cases Deck.ofText s with
  | error e => exact iff_of_false (fun h => by cases h) fun ⟨_, h, _⟩ => by cases h
  | ok d => exact ⟨fun h => ⟨d, rfl, h⟩, fun ⟨_, h, hr⟩ => by cases h; exact hr⟩

/-- A failing source answers what an empty shelf answers, unless asked for a text with citations. -/
theorem answer_failing (h : source.Failing) {call : Call}
    (hcall : ∀ t, call = .expand t → Citation.inText t = []) :
    (c.withSource source).press.answer call =
      (c.withSource Shelf.empty.source).press.answer call := by
  cases call with
  | icon icon => rfl
  | cite id =>
    have hcite : (style c.config).cite source id = .ok (CitationStyle.unknown _) :=
      CitationStyle.cite_of_find _ (h.find_eq _)
    have hcite' : (style c.config).cite Shelf.empty.source id = .ok (CitationStyle.unknown _) :=
      CitationStyle.cite_of_find _ (Shelf.find_empty _)
    exact (Press.answer_cite_of_eq_ok hcite).trans (Press.answer_cite_of_eq_ok hcite').symm
  | expand t =>
    have ht := hcall t rfl
    exact (Press.answer_expand_eq_ok.2 (CitationStyle.expand_of_inText_eq_nil _ _ ht)).trans
      (Press.answer_expand_eq_ok.2 (CitationStyle.expand_of_inText_eq_nil _ _ ht)).symm

/-- A failing source answers the calls of a deck that an empty shelf answers exactly if no text with
citations is among them. -/
theorem forall_answers_failing_iff (h : source.Failing) {calls : List Call}
    (hempty : ∀ call ∈ calls, (c.withSource Shelf.empty.source).press.Answers call) :
    (∀ call ∈ calls, (c.withSource source).press.Answers call) ↔
      ∀ t, .expand t ∈ calls → Citation.inText t = [] := by
  constructor
  · intro hall t ht
    obtain ⟨a, ha⟩ := hall _ ht
    exact (CitationStyle.exists_expand_failing_iff _ h t).1 ⟨a, Press.answer_expand_eq_ok.1 ha⟩
  · intro htexts call hcall
    obtain ⟨a, ha⟩ := hempty call hcall
    refine ⟨a, (answer_failing h ?_).trans ha⟩
    rintro t rfl
    exact htexts t hcall

/-- A run with a mute source compiles the deck as it is written. -/
theorem compileText_eq_ok_of_mute (describe : Fault → String) (c : Compiler) (hmute : source.Mute)
    {s : String} {d : Deck} (hd : Deck.ofText s = .ok d)
    (hnests : (d.slides.any fun s => Value.nestsEntries s.content) = false) (r : Compilation) :
    ((c.withSource source).compileText describe s).ending = .ok r ↔
      (c.Drafted d ∧ ∀ call ∈ c.callsOf d, (c.withSource source).press.Answers call) ∧
        r = ⟨c.document (c.withSource source).press.answerText d, Citation.ids d.citations,
          ((c.withSource source).compile describe d).warnings, d.slides.length⟩ := by
  have hfill : (d.withBibliographies describe (c.withSource source).config
      (c.withSource source).source (Citation.ids d.citations)).2 = d :=
    Deck.withBibliographies_of_mute hmute _ d
  constructor
  · intro h
    obtain ⟨d', hd', h⟩ := compileText_eq_ok.1 h
    rw [hd] at hd'
    cases hd'
    obtain ⟨⟨-, hready⟩, h⟩ := (ending_compile_eq_ok hfill).1 h
    exact ⟨hready, h⟩
  · rintro ⟨hready, h⟩
    exact compileText_eq_ok.2 ⟨d, hd, (ending_compile_eq_ok hfill).2 ⟨⟨hnests, hready⟩, h⟩⟩

/-- Without texts with citations a deck has the same document under a failing source as with an
empty shelf. -/
theorem document_failing (h : source.Failing) {d : Deck}
    (htexts : ∀ t, .expand t ∈ c.callsOf d → Citation.inText t = []) :
    c.document (c.withSource source).press.answerText d =
      c.document (c.withSource Shelf.empty.source).press.answerText d := by
  have hbodies : (Press.placed d).map (c.press.bodyWith (c.withSource source).press.answerText) =
      (Press.placed d).map
        (c.press.bodyWith (c.withSource Shelf.empty.source).press.answerText) := by
    refine List.map_congr_left fun x hx => Press.bodyWith_congr fun call hcall => ?_
    have hmem : call ∈ c.callsOf d := List.mem_flatMap.2 ⟨x, hx, hcall⟩
    have hanswer : (c.withSource source).press.answer call =
        (c.withSource Shelf.empty.source).press.answer call :=
      answer_failing h fun t ht => htexts t (ht ▸ hmem)
    rw [Press.answerText, Press.answerText, hanswer]
  rw [document, document, hbodies]

/-- **A run with a mute source** beside one with an empty shelf that returns. It returns exactly if
the slides of the deck as written have drafts and every call they lead to is answered. Unless the
deck wants a bibliography it then has the same citations and slides, and its document differs only in
what calls are answered with, icons apart. If the source fails and knows no reference, the run
returns exactly if no text that is expanded has a citation, and then differs in warnings only. -/
theorem compileText_mute (hmute : source.Mute) {s : String} {r : Compilation}
    (hr : ((c.withSource Shelf.empty.source).compileText describe s).ending = .ok r) :
    ∃ d, Deck.ofText s = .ok d ∧
      ((∃ r', ((c.withSource source).compileText describe s).ending = .ok r') ↔
        c.Drafted d ∧ ∀ call ∈ c.callsOf d, (c.withSource source).press.Answers call) ∧
      (d.wantsBibliography c.config = false →
        c.Drafted d ∧
        (∀ r', ((c.withSource source).compileText describe s).ending = .ok r' →
          r'.citations = r.citations ∧ r'.slideCount = r.slideCount ∧
          r.output = c.document (c.withSource Shelf.empty.source).press.answerText d ∧
          r'.output = c.document (c.withSource source).press.answerText d ∧
          ∀ icon, (c.withSource source).press.answerText (.icon icon) =
            (c.withSource Shelf.empty.source).press.answerText (.icon icon)) ∧
        (source.Failing →
          ((∃ r', ((c.withSource source).compileText describe s).ending = .ok r') ↔
            ∀ t, .expand t ∈ c.callsOf d → Citation.inText t = []) ∧
          ∀ r', ((c.withSource source).compileText describe s).ending = .ok r' →
            r' = { r with warnings := r'.warnings })) := by
  obtain ⟨d, hd, hr⟩ := compileText_eq_ok.1 hr
  have hnests := ((ending_compile_eq_ok rfl).1 hr).1.1
  have hrun (r' : Compilation) := compileText_eq_ok_of_mute describe c hmute hd hnests r'
  have hreturns : (∃ r', ((c.withSource source).compileText describe s).ending = .ok r') ↔
      c.Drafted d ∧ ∀ call ∈ c.callsOf d, (c.withSource source).press.Answers call :=
    ⟨fun ⟨r', hr'⟩ => ((hrun r').1 hr').1, fun h => ⟨_, (hrun _).2 ⟨h, rfl⟩⟩⟩
  refine ⟨d, hd, hreturns, fun hwants => ?_⟩
  have hfill : (d.withBibliographies describe (c.withSource Shelf.empty.source).config
      (c.withSource Shelf.empty.source).source (Citation.ids d.citations)).2 = d :=
    Deck.withBibliographies_of_not_wants hwants _
  obtain ⟨⟨-, hdrafted, hempty⟩, rfl⟩ := (ending_compile_eq_ok hfill).1 hr
  refine ⟨hdrafted, fun r' hr' => ?_, fun hfailing => ⟨?_, fun r' hr' => ?_⟩⟩
  · obtain ⟨-, rfl⟩ := (hrun r').1 hr'
    exact ⟨rfl, rfl, rfl, rfl, fun icon => rfl⟩
  · exact hreturns.trans
      ((and_iff_right hdrafted).trans (forall_answers_failing_iff hfailing hempty))
  · obtain ⟨⟨-, hcalls⟩, rfl⟩ := (hrun r').1 hr'
    have htexts : ∀ t, .expand t ∈ c.callsOf d → Citation.inText t = [] :=
      (forall_answers_failing_iff hfailing hempty).1 hcalls
    rw [document_failing hfailing htexts]
    rfl

/-- A source that is down. -/
def down : ReferenceSource := ⟨true, fun _ => .ok none, fun _ => .error (.down "source down")⟩

theorem failing_down : down.Failing := ⟨fun _ => rfl, fun _ => ⟨_, rfl⟩⟩

/-- A template whose text is expanded. -/
def noteTemplate : Registered :=
  ⟨⟨"note", "", "text", [], "\x7b\x7b refs.expand(content.text) \x7d\x7d", none, none⟩, .mapping⟩

/-- A compiler for notes. -/
def noting : Compiler :=
  ⟨Config.default, Registry.empty.register noteTemplate, fun _ => .ok "*", Shelf.empty.source⟩

/-- A deck with a citation in a note. -/
def noted : String :=
  "meta:\n  title: T\nslides:\n- template: note\n  content:\n    text: see [@x]\n"

/-- With an empty shelf the citation is written by its name, with a source that is down there is no
document. -/
theorem compileText_mute_noted :
    ∃ r, ((noting.withSource Shelf.empty.source).compileText Fault.describe noted).ending = .ok r ∧
      r.output = "---\nmarp: true\ntitle: T\ntheme: default\n---\n\nsee [x]" ∧
      ∃ d, Deck.ofText noted = .ok d ∧ ¬ (noting.Drafted d ∧
        ∀ call ∈ noting.callsOf d, (noting.withSource down).press.Answers call) := by
  obtain ⟨r, hr, houtput⟩ : ∃ r,
      ((noting.withSource Shelf.empty.source).compileText Fault.describe noted).ending.toOption =
        some r ∧ r.output = "---\nmarp: true\ntitle: T\ntheme: default\n---\n\nsee [x]" :=
    Option.map_eq_some_iff.1 (by decide +kernel)
  replace hr := Attempt.eq_ok_of_toOption hr
  refine ⟨r, hr, houtput, ?_⟩
  obtain ⟨d, hd, hreturns, -⟩ := compileText_mute failing_down.mute hr
  refine ⟨d, hd, fun h => ?_⟩
  obtain ⟨r', hr'⟩ := hreturns.2 h
  have hnone : ((noting.withSource down).compileText Fault.describe noted).ending.toOption.isNone =
      true := by
    decide +kernel
  rw [hr'] at hnone
  cases hnone

end Compiler

end SlidePress
