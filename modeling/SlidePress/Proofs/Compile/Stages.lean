import SlidePress.Proofs.Compile.Citations
import SlidePress.Proofs.Layout.Stopping

/-! # Where compilations fail

Between the reading of a deck and its layout citations are collected, references looked up and
bibliographies filled in. None of that fails: what goes wrong there is left behind as a warning, and
the deck goes on with its slides as they are or filled (`Compiler.Prepared`). So a compilation
returns, or it fails while the deck is read or laid out, with the stage and the error of the reader or
of a slide in its failure (`Compiler.compileText_ends`); it goes on for ever only if an icon does. -/

namespace SlidePress.Compiler

open Citation (ids)

variable {describe : Fault → String} {c : Compiler} {d : Deck}

/-! ### Before the layout -/

/-- Whether the source is asked for the references that a deck cites. -/
structure AsksReferences (c : Compiler) (d : Deck) : Prop where
  cites : ids d.citations ≠ []
  enabled : d.referencesEnabled c.config = true
  available : c.source.available = true

/-- What becomes of a deck before it is laid out, and the warnings on the way. -/
structure Prepared (describe : Fault → String) (c : Compiler) (d d' : Deck)
    (warnings : List String) : Prop where
  info : d'.info = d.info
  slides : List.Forall₂ (fun s s' => s' = s ∨ s.Filled c.source (ids d.citations) s')
    d.slides d'.slides
  unavailable : ids d.citations ≠ [] → d.referencesEnabled c.config = true →
    c.source.available = false → d' = d ∧ warnings = [Deck.unavailableWarning]
  unresolved : c.AsksReferences d → ∀ e, c.source.findAll (ids d.citations) = .error e →
    "Failed to resolve references: " ++ e.message describe ∈ warnings
  unfilled : c.AsksReferences d → d.slides.any Slide.wantsBibliography = true →
    ∀ e, (Deck.fillBibliographies c.source (ids d.citations) d.slides).2 = .error e →
      d' = d ∧ "Failed to auto-generate bibliography: " ++ e.message describe ∈ warnings

/-- The warnings before a deck is laid out. -/
def warningsBefore (describe : Fault → String) (c : Compiler) (d : Deck) : List String :=
  d.referenceWarnings describe c.config c.source (ids d.citations) ++
    (d.withBibliographies describe c.config c.source (ids d.citations)).1

theorem mem_referenceWarnings (h : c.AsksReferences d) {e : ReferenceError}
    (he : c.source.findAll (ids d.citations) = .error e) :
    "Failed to resolve references: " ++ e.message describe ∈
      d.referenceWarnings describe c.config c.source (ids d.citations) := by
  simp [Deck.referenceWarnings, h.cites, h.enabled, h.available, he]

theorem withBibliographies_of_error (describe : Fault → String) (h : c.AsksReferences d)
    (hany : d.slides.any Slide.wantsBibliography = true) {e : ReferenceError}
    (he : (Deck.fillBibliographies c.source (ids d.citations) d.slides).2 = .error e) :
    c.filledDeck describe d = d ∧ "Failed to auto-generate bibliography: " ++ e.message describe ∈
      (d.withBibliographies describe c.config c.source (ids d.citations)).1 := by
  unfold filledDeck Deck.withBibliographies
  rw [h.enabled, h.available, hany]
  rcases hfill : Deck.fillBibliographies c.source (ids d.citations) d.slides with ⟨warnings, _⟩
  rw [hfill] at he
  cases he
  simp [h.cites]

/-- **Nothing fails before the layout.** -/
theorem prepared (describe : Fault → String) (c : Compiler) (d : Deck) :
    Prepared describe c d (c.filledDeck describe d) (c.warningsBefore describe d) := by
  obtain ⟨out, hout, hslides⟩ :=
    Deck.exists_filled_slides describe c.config c.source (ids d.citations) d
  have hdeck : c.filledDeck describe d = { d with slides := out } := hout
  refine ⟨by rw [hdeck], by rwa [hdeck], fun hcites henabled havailable => ?_, fun h e he => ?_,
    fun h hany e he => ?_⟩
  · simp [filledDeck, warningsBefore, Deck.referenceWarnings, Deck.withBibliographies, hcites,
      henabled, havailable]
  · exact List.mem_append_left _ (mem_referenceWarnings h he)
  · obtain ⟨hsame, hwarning⟩ := withBibliographies_of_error describe h hany he
    exact ⟨hsame, List.mem_append_right _ hwarning⟩

/-! ### The layout -/

theorem placed_returnsAlone {paces : Nat → Pace} {press : Press} {limit : Nat} {bodies : List String}
    (h : (press.layOutAt paces limit d).ending = .ok bodies) :
    List.Forall₂ press.ReturnsAlone (Press.placed d) bodies := by
  obtain ⟨hready, rfl⟩ := Press.ending_layOutAt_eq_ok.1 h
  rw [List.forall₂_map_right_iff, List.forall₂_same]
  exact fun x hx => ⟨Pace.even, Press.ending_layOut_eq_ok.2 ⟨hready x hx, rfl⟩⟩

/-- Only an icon can go on for ever. -/
theorem exists_icon_of_endless {x : SlidePlace × Slide} (h : c.press.StoppedBy x .endless) :
    ∃ i, .icon i ∈ c.press.callsOf x ∧ c.icon i = .error .endless := by
  generalize hhalt : (Halt.endless : Halt SlideError) = halt at h
  cases h with
  | noDraft => cases hhalt
  | @unanswered call _ hcall he =>
    subst hhalt
    cases call with
    | icon i =>
      refine ⟨i, hcall, ?_⟩
      change Except.mapError _ (c.icon i) = _ at he
      rcases hi : c.icon i with ⟨e | _⟩ | a
      · rw [hi] at he
        cases he
      · rfl
      · rw [hi] at he
        cases he
    | cite id =>
      change Except.mapError _ (Ending.ofExcept ((style c.config).cite c.source id)) = _ at he
      cases hcite : (style c.config).cite c.source id <;> rw [hcite] at he <;> cases he
    | expand s =>
      change Except.mapError _ (Ending.ofExcept ((style c.config).expand c.source s)) = _ at he
      cases hexpand : (style c.config).expand c.source s <;> rw [hexpand] at he <;> cases he

/-! ### The run -/

/-- **A compilation fails in the stage that failed.** If no content of the deck is nested in itself,
there are these cases. The text cannot be read, and the compilation fails in that stage with the
error of the reader, before anything is called or warned of. Or the deck is read, and then prepared
for its layout, which cannot fail; and all its slides return, and the compilation with them; or one
of them is stopped, and the compilation fails in the layout with the very error; or a slide asks for
an icon that has no end. -/
theorem compileText_ends (describe : Fault → String) (c : Compiler) (text : String)
    (hnests : ∀ d, Deck.ofText text = .ok d →
      ∀ s ∈ d.slides, Value.nestsEntries s.content = false) :
    (∃ e, Deck.ofText text = .error e ∧
      c.compileText describe text = ⟨[], [], .error (.failed (.stage (.parse false) (.deck e)))⟩) ∨
    ∃ d d', Deck.ofText text = .ok d ∧
      Prepared describe c d d' (c.compileText describe text).warnings ∧
      ((∃ bodies, List.Forall₂ c.press.ReturnsAlone (Press.placed d') bodies ∧
          (c.compileText describe text).ending = .ok
            ⟨Document.render bodies d.info (c.renderOptions d'), ids d.citations,
              (c.compileText describe text).warnings, d.slides.length⟩) ∨
        (∃ x ∈ Press.placed d', ∃ e, c.press.StoppedBy x (.failed e) ∧
          (c.compileText describe text).ending =
            .error (.failed (.stage .transform (.slide e)))) ∨
        ∃ x ∈ Press.placed d', ∃ i, .icon i ∈ c.press.callsOf x ∧ c.icon i = .error .endless ∧
          (c.compileText describe text).ending = .error .endless) := by
  cases hd : Deck.ofText text with
  | error e => exact .inl ⟨e, rfl, by rw [compileText, hd]; rfl⟩
  | ok d =>
    have hany : ¬ (d.slides.any fun s => Value.nestsEntries s.content) = true := by
      simpa using hnests d hd
    have hprepared := prepared describe c d
    rw [compileText_of_ofText hd, compile, if_neg hany]
    refine .inr ⟨d, c.filledDeck describe d, rfl, hprepared, ?_⟩
    dsimp only
    rw [show (d.withBibliographies describe c.config c.source (ids d.citations)).2 =
      c.filledDeck describe d from rfl]
    generalize hcourse : c.press.layOutDeck (limit c.config (c.filledDeck describe d))
      (c.filledDeck describe d) = course
    rcases hending : course.ending with ⟨e | _⟩ | bodies
    · rw [← hcourse] at hending
      obtain ⟨x, hx, hstopped⟩ := Press.exists_stoppedBy hending
      exact .inr (.inl ⟨x, hx, e, hstopped, rfl⟩)
    · rw [← hcourse] at hending
      obtain ⟨x, hx, hstopped⟩ := Press.exists_stoppedBy hending
      obtain ⟨i, hi, hicon⟩ := exists_icon_of_endless hstopped
      exact .inr (.inr ⟨x, hx, i, hi, hicon, rfl⟩)
    · rw [← hcourse] at hending
      refine .inl ⟨bodies, placed_returnsAlone hending, ?_⟩
      rw [← hprepared.info, hprepared.slides.length_eq]
      rfl

/-- With a source that is down, the look-up leaves a warning, and the slide that has its text expanded
fails with the same error. -/
theorem compileText_ends_noted : ∃ d x e, Deck.ofText noted = .ok d ∧
    (∀ s ∈ d.slides, Value.nestsEntries s.content = false) ∧
    (noting.withSource down).press.StoppedBy x (.failed e) ∧
    ((noting.withSource down).compileText Fault.describe noted).ending =
      .error (.failed (.stage .transform (.slide e))) ∧
    "Failed to resolve references: source down" ∈
      ((noting.withSource down).compileText Fault.describe noted).warnings := by
  obtain ⟨d, hd, hdeck⟩ : ∃ d, (Deck.ofText noted).toOption = some d ∧
      (d.referencesEnabled noting.config, ids d.citations,
        d.slides.any fun s => Value.nestsEntries s.content) = (true, ["x"], false) :=
    Option.map_eq_some_iff.1 (by decide +kernel)
  replace hd := Attempt.eq_ok_of_toOption hd
  simp only [Prod.mk.injEq] at hdeck
  obtain ⟨henabled, hids, hnests⟩ := hdeck
  replace hnests : ∀ s ∈ d.slides, Value.nestsEntries s.content = false := by simpa using hnests
  have hnone : ((noting.withSource down).compileText Fault.describe noted).ending.toOption.isNone =
      true := by
    decide +kernel
  rcases compileText_ends Fault.describe (noting.withSource down) noted (fun d' hd' => by
      cases hd.symm.trans hd'
      exact hnests) with ⟨e, he, -⟩ | ⟨d', d'', hd', hprepared, hending⟩
  · cases hd.symm.trans he
  · cases hd.symm.trans hd'
    rcases hending with ⟨bodies, -, hok⟩ | ⟨x, -, e, hstopped, he⟩ | ⟨x, -, i, -, hicon, -⟩
    · rw [hok] at hnone
      cases hnone
    · have hasks : (noting.withSource down).AsksReferences d := ⟨by simp [hids], henabled, rfl⟩
      exact ⟨d, x, e, hd, hnests, hstopped, he, hprepared.unresolved hasks _ rfl⟩
    · cases hicon

end SlidePress.Compiler
