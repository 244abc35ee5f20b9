import SlidePress.Citation.Collect
import SlidePress.Config
import SlidePress.Reference.Bibliography

/-! # The references of a deck

Before the slides are laid out, the references that a deck cites are looked up, and the slides that
ask for a bibliography of them are filled. Neither step fails: what goes wrong is a warning. If one
bibliography cannot be made, none is filled in.

* `Deck.referenceWarnings`: the warnings about cited references.
* `Deck.withBibliographies`: a deck with its bibliographies filled in, and the warnings.
* `length_fillBibliographies`: no slide is lost or added. -/

namespace SlidePress

/-- The template of bibliographies. -/
def bibliographyTemplate : String := "bibliography"

namespace Slide

/-- Whether a slide asks for the bibliography of the deck. -/
def wantsBibliography (s : Slide) : Bool :=
  s.template == bibliographyTemplate &&
    match s.content.get? "autoGenerate" with
    | some (.bool b) => b
    | _ => false

/-- The order that a slide asks its bibliography to have. -/
def bibliographyOrder (s : Slide) : Value :=
  let order := Entries.getD s.content "sort"
  if order.truthy then order else .str ReferenceOrder.cited.name

/-- A slide with a bibliography in its content. -/
def withBibliography (s : Slide) (b : Bibliography) : Attempt Slide := do
  let references ← b.items.mapM Reference.templateEntry
  return { s with content := Entries.update s.content (Entries.ofNames
    [("references", .list (references.map Value.map)), ("_autoGenerated", .bool true),
      ("_generatedEntries", .list (b.entries.map Value.str))]) }

end Slide

namespace Deck

/-- Whether references are looked up: unless the configuration or the deck says otherwise. -/
def referencesEnabled (c : Config) (d : Deck) : Bool :=
  c.referencesEnabled.truthy &&
    match d.info.references with
    | some r => r.enabled
    | none => true

/-- The warning about a source that cannot be asked. -/
def unavailableWarning : String :=
  "Reference source is not available; citations are left unresolved"

/-- The warnings about cited references; faults are described by `describe`. -/
def referenceWarnings (describe : Fault → String) (c : Config) (source : ReferenceSource)
    (ids : List String) (d : Deck) : List String :=
  if ids.isEmpty || !d.referencesEnabled c then []
  else if !source.available then [unavailableWarning]
  else
    match source.findAll ids with
    | .error e => ["Failed to resolve references: " ++ e.message describe]
    | .ok found =>
      (ids.filter fun id => (found.lookup id).isNone).map ("Reference not found: " ++ ·)

/-- The warnings about the references that a bibliography misses. -/
def missingWarnings (b : Bibliography) : List String :=
  b.missing.map ("Bibliography: reference not found: " ++ ·)

/-- Slides with their bibliographies filled in, and the warnings up to the first bibliography that
cannot be made. -/
def fillBibliographies (source : ReferenceSource) (ids : List String) :
    List Slide → List String × Lookup (List Slide)
  | [] => ([], .ok [])
  | s :: ss =>
    if s.wantsBibliography then
      match Bibliography.generate source ids s.bibliographyOrder with
      | .error e => ([], .error e)
      | .ok b =>
        match s.withBibliography b with
        | .error f => (missingWarnings b, .error (.fault f))
        | .ok s =>
          let (warnings, rest) := fillBibliographies source ids ss
          (missingWarnings b ++ warnings, rest.map (s :: ·))
    else
      let (warnings, rest) := fillBibliographies source ids ss
      (warnings, rest.map (s :: ·))

/-- A deck with its bibliographies filled in, and the warnings; faults are described by
`describe`. -/
def withBibliographies (describe : Fault → String) (c : Config) (source : ReferenceSource)
    (ids : List String) (d : Deck) : List String × Deck :=
  if ids.isEmpty || !d.referencesEnabled c || !source.available ||
      !d.slides.any Slide.wantsBibliography then
    ([], d)
  else
    match fillBibliographies source ids d.slides with
    | (warnings, .ok slides) => (warnings, { d with slides := slides })
    | (warnings, .error e) =>
      (warnings ++ ["Failed to auto-generate bibliography: " ++ e.message describe], d)

/-- No slide is lost or added. -/
theorem length_fillBibliographies (source : ReferenceSource) (ids : List String)
    (ss out : List Slide) (h : (fillBibliographies source ids ss).2 = .ok out) :
    out.length = ss.length := by
  induction ss generalizing out with
  | nil => cases h; rfl
  | cons s ss ih =>
    unfold fillBibliographies at h
    cases hr : (fillBibliographies source ids ss).2 with
    | error e =>
      split at h
      · split at h
        · cases h
        · split at h
          · cases h
          · simp [hr, Except.map] at h
      · simp [hr, Except.map] at h
    | ok rest =>
      have hlen := ih rest hr
      split at h
      · split at h
        · cases h
        · split at h
          · cases h
          · simp only [hr, Except.map, Except.ok.injEq] at h
            simp [← h, hlen]
      · simp only [hr, Except.map, Except.ok.injEq] at h
        simp [← h, hlen]

end Deck

end SlidePress
