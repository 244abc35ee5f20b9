import SlidePress.Proofs.Compile.Bibliography

/-! # The content of raw slides

A raw slide is its own text, and whatever its content is, the slide comes out the same; so does its
deck, as far as slides are filled in, laid out and written (`Compiler.reportOn_bare`). Citations are
collected from all content before that. So the content of raw slides shows in a compilation through
the names of cited references, and in no other way (`Compiler.compile_of_bare_eq`). -/

namespace SlidePress

/-- A slide without the content of a raw one. -/
def Slide.bare (s : Slide) : Slide := if s.isRaw then { s with content := [] } else s

/-- A deck without the content of its raw slides. -/
def Deck.bare (d : Deck) : Deck := { d with slides := d.slides.map Slide.bare }

/-! ### Slides -/

namespace Slide

variable {s : Slide}

theorem bare_of_isRaw (h : s.isRaw = true) : s.bare = { s with content := [] } := if_pos h

theorem bare_of_not_isRaw (h : ¬ s.isRaw = true) : s.bare = s := if_neg h

@[simp] theorem template_bare (s : Slide) : s.bare.template = s.template := by
  unfold bare
  split <;> rfl

@[simp] theorem notes_bare (s : Slide) : s.bare.notes = s.notes := by
  unfold bare
  split <;> rfl

@[simp] theorem isRaw_bare (s : Slide) : s.bare.isRaw = s.isRaw := by
  rw [isRaw, isRaw, template_bare]

theorem not_isRaw_of_wantsBibliography (h : s.wantsBibliography = true) : ¬ s.isRaw = true := by
  rw [isRaw, template_of_wantsBibliography h]
  decide

@[simp] theorem wantsBibliography_bare (s : Slide) :
    s.bare.wantsBibliography = s.wantsBibliography := by
  by_cases hraw : s.isRaw = true
  · have hnone (t : Slide) (ht : t.isRaw = true) : t.wantsBibliography = false := by
      by_contra h
      exact not_isRaw_of_wantsBibliography (by simpa using h) ht
    rw [hnone s hraw, hnone s.bare (by rwa [isRaw_bare])]
  · rw [bare_of_not_isRaw hraw]

/-- A slide with a bibliography in its content is not raw. -/
theorem bare_withBibliography {b : Bibliography} {s' : Slide} (h : s.wantsBibliography = true)
    (hs : s.withBibliography b = .ok s') : s'.bare = s' := by
  obtain ⟨references, -, hs⟩ := Attempt.bind_eq_ok.1 hs
  cases hs
  have hraw : ¬ s.isRaw = true := not_isRaw_of_wantsBibliography h
  exact bare_of_not_isRaw hraw

end Slide

/-- **A raw slide comes out the same** with any content. -/
theorem Press.layOut_bare (press : Press) (pace : Pace) (place : SlidePlace) (s : Slide) :
    press.layOut pace place s.bare = press.layOut pace place s := by
  by_cases hraw : s.isRaw = true
  · rw [layOut_of_isRaw _ _ _ _ hraw, layOut_of_isRaw _ _ _ _ (by rwa [Slide.isRaw_bare]),
      Slide.bare_of_isRaw hraw]
  · rw [Slide.bare_of_not_isRaw hraw]

/-! ### Decks -/

namespace Deck

variable {d : Deck}

@[simp] theorem info_bare (d : Deck) : d.bare.info = d.info := rfl

@[simp] theorem slides_bare (d : Deck) : d.bare.slides = d.slides.map Slide.bare := rfl

theorem any_wantsBibliography_bare (d : Deck) :
    d.bare.slides.any Slide.wantsBibliography = d.slides.any Slide.wantsBibliography := by
  rw [slides_bare, List.any_map]
  exact congrArg d.slides.any (funext Slide.wantsBibliography_bare)

theorem fillBibliographies_bare (source : ReferenceSource) (ids : List String) (ss : List Slide) :
    fillBibliographies source ids (ss.map Slide.bare) =
      ((fillBibliographies source ids ss).1,
        (fillBibliographies source ids ss).2.map (List.map Slide.bare)) := by
  induction ss with
  | nil => rfl
  | cons s ss ih =>
    rw [List.map_cons, fillBibliographies, fillBibliographies, Slide.wantsBibliography_bare, ih]
    by_cases hwants : s.wantsBibliography = true
    · rw [if_pos hwants, if_pos hwants,
        Slide.bare_of_not_isRaw (Slide.not_isRaw_of_wantsBibliography hwants)]
      cases Bibliography.generate source ids s.bibliographyOrder with
      | error e => rfl
      | ok b =>
        dsimp only
        cases hs : s.withBibliography b with
        | error f => rfl
        | ok s' => cases (fillBibliographies source ids ss).2 <;>
            simp [Except.map, Slide.bare_withBibliography hwants hs]
    · rw [if_neg hwants, if_neg hwants]
      rcases fillBibliographies source ids ss with ⟨warnings, e | rest⟩ <;> rfl

/-- Bibliographies are filled in whatever the content of raw slides is. -/
theorem withBibliographies_bare (describe : Fault → String) (c : Config) (source : ReferenceSource)
    (ids : List String) (d : Deck) :
    d.bare.withBibliographies describe c source ids =
      ((d.withBibliographies describe c source ids).1,
        (d.withBibliographies describe c source ids).2.bare) := by
  have henabled : d.bare.referencesEnabled c = d.referencesEnabled c := rfl
  unfold withBibliographies
  rw [any_wantsBibliography_bare, slides_bare, fillBibliographies_bare, henabled]
  split_ifs
  · rfl
  · rcases fillBibliographies source ids d.slides with ⟨warnings, e | slides⟩ <;> rfl

end Deck

namespace Press

variable (press : Press)

theorem map_placed_bare {α : Type} (f : SlidePlace × Slide → α) (d : Deck)
    (hf : ∀ place s, f (place, s.bare) = f (place, s)) :
    (placed d.bare).map f = (placed d).map f :=
  List.ext_getElem? fun i => by simp [placed, Function.comp_def, hf]

theorem layOutAt_bare (paces : Nat → Pace) (limit : Nat) (d : Deck) :
    press.layOutAt paces limit d.bare = press.layOutAt paces limit d := by
  have hcourses : press.courses paces d.bare = press.courses paces d :=
    map_placed_bare _ d fun place s => press.layOut_bare _ place s
  have hone : press.oneByOne paces d.bare = press.oneByOne paces d := by
    have hmap (d : Deck) : press.oneByOne paces d = (press.courses paces d).mapM id := by
      rw [courses, List.mapM_map]
      rfl
    rw [hmap, hmap, hcourses]
  unfold layOutAt together
  rw [hone, hcourses]

end Press

/-! ### Compilations -/

namespace Compiler

variable {c : Compiler} {describe : Fault → String} {d d' : Deck}

/-- What comes of compiling a deck that is taken to cite the given names. -/
def reportOn (describe : Fault → String) (c : Compiler) (ids : List String) (d : Deck) : Report :=
  let first := d.referenceWarnings describe c.config c.source ids
  let (second, d) := d.withBibliographies describe c.config c.source ids
  let course := c.press.layOutDeck (limit c.config d) d
  ⟨first ++ second, course.calls, c.finish ids (first ++ second) d course.ending⟩

theorem compile_eq_reportOn (describe : Fault → String) (c : Compiler)
    (h : (d.slides.any fun s => Value.nestsEntries s.content) = false) :
    c.compile describe d = c.reportOn describe (Citation.ids d.citations) d :=
  if_neg (by simp [h])

theorem notes_bare (d : Deck) : notes d.bare = notes d := by
  have hnotes : (d.bare.slides.mapIdx fun i s => (i, s.notes.getD "")) =
      d.slides.mapIdx fun i s => (i, s.notes.getD "") :=
    List.ext_getElem? fun i => by simp [Function.comp_def]
  rw [notes, hnotes, notes]

theorem renderOptions_bare (c : Compiler) (d : Deck) : c.renderOptions d.bare = c.renderOptions d := by
  simp [renderOptions, notes_bare, Function.comp_def]

theorem limit_bare (config : Config) (d : Deck) : limit config d.bare = limit config d := by
  simp [limit]

theorem finish_bare (c : Compiler) (ids warnings : List String) (d : Deck)
    (ending : Ending SlideError (List String)) :
    c.finish ids warnings d.bare ending = c.finish ids warnings d ending := by
  rcases ending with ⟨e | _⟩ | bodies
  · rfl
  · rfl
  · simp [finish, renderOptions_bare]

/-- **The content of raw slides changes nothing** once the citations are collected. -/
theorem reportOn_bare (describe : Fault → String) (c : Compiler) (ids : List String) (d : Deck) :
    c.reportOn describe ids d.bare = c.reportOn describe ids d := by
  unfold reportOn
  rw [Deck.withBibliographies_bare]
  dsimp only
  rw [limit_bare, Press.layOutDeck, Press.layOutAt_bare, finish_bare]
  rfl

theorem compile_eq_of_bare_eq (describe : Fault → String) (c : Compiler) (h : d.bare = d'.bare)
    (hnests : (d'.slides.any fun s => Value.nestsEntries s.content) = false) :
    c.compile describe d' = c.reportOn describe (Citation.ids d'.citations) d := by
  rw [compile_eq_reportOn describe c hnests, ← reportOn_bare, ← h, reportOn_bare]

/-- Where no bibliography is wanted, the names that are cited do not matter to the document. -/
theorem exists_reportOn {ids ids' : List String} {r : Compilation}
    (hany : d.slides.any Slide.wantsBibliography = false)
    (h : (c.reportOn describe ids d).ending = .ok r) :
    ∃ r', (c.reportOn describe ids' d).ending = .ok r' ∧ r'.citations = ids' ∧
      r'.output = r.output ∧ r'.slideCount = r.slideCount := by
  have hsame (ids : List String) :
      d.withBibliographies describe c.config c.source ids = ([], d) := by
    rw [Deck.withBibliographies, hany]
    simp
  unfold reportOn at h ⊢
  simp only [hsame] at h ⊢
  obtain ⟨bodies, hbodies, rfl⟩ := finish_eq_ok.1 h
  exact ⟨_, finish_eq_ok.2 ⟨bodies, hbodies, rfl⟩, rfl, rfl, rfl⟩

/-- **The content of raw slides shows in the citations.** Take two decks that are the same but for
the content of raw slides, none of it nested in itself. If they cite the same names, their
compilations are the same, calls and failures included. If the first one is compiled, the second one
comes to the same document, citations, warnings and slides exactly if it cites the same names; and
where no bibliography is wanted, nothing but the citations and the warnings can differ. -/
theorem compile_of_bare_eq (describe : Fault → String) (c : Compiler) (h : d.bare = d'.bare) :
    ((d.slides.any fun s => Value.nestsEntries s.content) = false →
      (d'.slides.any fun s => Value.nestsEntries s.content) = false →
        Citation.ids d'.citations = Citation.ids d.citations →
          c.compile describe d' = c.compile describe d) ∧
    ∀ r, (c.compile describe d).ending = .ok r →
      ((c.compile describe d').ending = .ok r ↔
        (d'.slides.any fun s => Value.nestsEntries s.content) = false ∧
          Citation.ids d'.citations = Citation.ids d.citations) ∧
      ((d'.slides.any fun s => Value.nestsEntries s.content) = false →
        d.slides.any Slide.wantsBibliography = false →
          ∃ r', (c.compile describe d').ending = .ok r' ∧
            r'.citations = Citation.ids d'.citations ∧ r'.output = r.output ∧
            r'.slideCount = r.slideCount) := by
  have hsame (hnests : (d.slides.any fun s => Value.nestsEntries s.content) = false)
      (hnests' : (d'.slides.any fun s => Value.nestsEntries s.content) = false)
      (hids : Citation.ids d'.citations = Citation.ids d.citations) :
      c.compile describe d' = c.compile describe d := by
    rw [compile_eq_of_bare_eq describe c h hnests', hids, compile_eq_reportOn describe c hnests]
  refine ⟨hsame, fun r hr => ?_⟩
  obtain ⟨⟨hnests, -⟩, hresult⟩ := (ending_compile_eq_ok rfl).1 hr
  refine ⟨⟨fun hr' => ?_, fun ⟨hnests', hids⟩ => hsame hnests hnests' hids ▸ hr⟩,
    fun hnests' hany => ?_⟩
  · obtain ⟨⟨hnests', -⟩, hresult'⟩ := (ending_compile_eq_ok rfl).1 hr'
    exact ⟨hnests', congrArg Compilation.citations (hresult'.symm.trans hresult)⟩
  · rw [compile_eq_of_bare_eq describe c h hnests']
    exact exists_reportOn hany (compile_eq_reportOn describe c hnests ▸ hr)

/-- A deck with one raw slide that has some content. -/
def aside (content : Entries) : Deck :=
  ⟨⟨"T", none, none, defaultTheme, none⟩, [⟨rawTemplate, content, none, none, some "x"⟩]⟩

/-- A citation in the content of a raw slide counts, although its text is the same without it. -/
theorem compile_of_bare_eq_aside :
    ∃ r r', (noting.compile Fault.describe (aside [])).ending = .ok r ∧
      (noting.compile Fault.describe (aside [(.str "a", .str "[@k]")])).ending = .ok r' ∧
      r' ≠ r ∧ r'.citations = ["k"] ∧ r'.output = r.output := by
  obtain ⟨r, hr, hcitations⟩ : ∃ r,
      (noting.compile Fault.describe (aside [])).ending.toOption = some r ∧ r.citations = [] :=
    Option.map_eq_some_iff.1 (by decide +kernel)
  replace hr := Attempt.eq_ok_of_toOption hr
  have hbare : (aside []).bare = (aside [(.str "a", .str "[@k]")]).bare := rfl
  obtain ⟨-, hdiffer⟩ := (compile_of_bare_eq Fault.describe noting hbare).2 r hr
  obtain ⟨r', hr', hcitations', houtput, -⟩ := hdiffer rfl (by decide)
  have hids : Citation.ids (aside [(.str "a", .str "[@k]")]).citations = ["k"] := by decide +kernel
  refine ⟨r, r', hr, hr', fun hsame => ?_, hcitations'.trans hids, houtput⟩
  rw [← hsame, hcitations', hids] at hcitations
  cases hcitations

end Compiler

end SlidePress
