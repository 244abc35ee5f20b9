import SlidePress.Proofs.Packaged.Schemas
import SlidePress.Proofs.Packaged.Talks

/-! # Drafts by the packaged templates

A slide with a packaged template has a draft exactly if its content conforms to the schema of the
template and the template runs (`draft_eq_ok_iff`). -/

namespace SlidePress.Packaged

open Schema

/-- **A slide has a draft** exactly if its content conforms and its template runs. -/
theorem draft_eq_ok_iff {press : Press} (hstep : press.templates.InStep) {s : Slide}
    {t : TemplateDefinition} (ht : t ∈ definitions)
    (hget : press.templates.get? s.template = some t) {place : SlidePlace}
    {p : String × Requests} : press.draft place s = .ok p ↔
      Conforms (.map t.schema) (.map s.content) ∧ Press.run place s.content t.output = .ok p := by
  have hvalidate : press.templates.validate s.template (.map s.content) =
      Schema.validate (.map t.schema) (.map s.content) := by
    rw [hstep.validate_eq, hget]
  obtain ⟨r, hr, hconforms⟩ := (wellFormed_schema ht).exists_validate (.map s.content)
  unfold Press.draft
  rw [hget]
  dsimp only
  rw [hvalidate, hr]
  dsimp only
  split_ifs with hvalid
  · exact (and_iff_right (hconforms.1 hvalid)).symm
  · exact iff_of_false (fun h => by cases h) fun h => hvalid (hconforms.2 h.1)

end SlidePress.Packaged
