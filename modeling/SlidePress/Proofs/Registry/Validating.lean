import SlidePress.Proofs.Registry.History
import SlidePress.Proofs.Registry.Loading
import SlidePress.Proofs.Schema.Stumbling

/-! # Whether content can be validated

Loading a template compiles its schema and asks nothing else of the values in it, so a template can be
registered with which a check of content fails: the name of a field is a number, say, and no error can
be written at it. `exists_schema_of_load` says with which content that happens, for every template that
can be loaded, and that it does not happen where the schema is tame. -/

namespace SlidePress

theorem Schema.exists_verdict_iff {s : Schema} {v : Value} :
    (∃ verdict, s.verdict v = .ok verdict) ↔ ¬ s.Stumbles [] v := by
  rw [← Attempt.not_fails_iff, ← fails_check, verdict, Attempt.fails_bind]
  refine not_congr (or_iff_left ?_)
  rintro ⟨errors, -, h⟩
  exact Attempt.not_fails_ok _ h

namespace Registry

open Schema (Stumbles Tame compile)

variable {r r' : Registry} {source s : String} {d : TemplateDefinition}

/-- Content for a template that has just been registered is checked against its own schema. -/
theorem validate_register (r : Registry) (t : Registered) (content : Value) :
    (r.register t).validate t.definition.name content = t.schema.verdict content := by
  rw [validate, register, lookup_put, if_pos rfl]

/-- **Validating comes to an end** for a loaded template, in a verdict, exactly where the check of its
schema does not stumble over the content. Where all names in the schema are texts and all bounds are
numbers, where texts are looked for in collections and no expression is one for bytes, there is a
verdict on all content. -/
theorem exists_schema_of_load (h : r.load source s = .ok (r', d)) :
    ∃ schema, compile (.map d.schema) = .ok schema ∧
      (∀ content, (∃ verdict, r'.validate d.name content = .ok verdict) ↔
        ¬ Stumbles schema [] content) ∧
      (Tame schema → ∀ content, ∃ verdict, r'.validate d.name content = .ok verdict) := by
  obtain ⟨t, ht, rfl, rfl⟩ := load_eq_ok_iff.1 h
  have hends (content : Value) :
      (∃ verdict, (r.register t).validate t.definition.name content = .ok verdict) ↔
        ¬ Stumbles t.schema [] content := by
    rw [validate_register]
    exact Schema.exists_verdict_iff
  exact ⟨t.schema, declared_compiled ht, hends,
    fun htame content => (hends content).2 (htame.not_stumbles content)⟩

/-- A template that requires a field with a number for a name. -/
def yearly : String :=
  "name: x\ndescription: d\ncategory: c\noutput: o\n" ++
    "schema: \x7brequired: [2024], properties: \x7b2024: \x7btype: string\x7d\x7d\x7d\n"

/-- It can be loaded, but there is no verdict on content without this field. -/
theorem exists_schema_of_load_yearly : ∃ r d schema, empty.load "<string>" yearly = .ok (r, d) ∧
    compile (.map d.schema) = .ok schema ∧ Stumbles schema [] (.map []) ∧
    ¬ ∃ verdict, r.validate d.name (.map []) = .ok verdict := by
  have hends : ((empty.load "<string>" yearly).toOption.map fun p =>
      (p.1.validate p.2.name (.map [])).toOption.isNone) = some true := by
    decide +kernel
  obtain ⟨⟨r, d⟩, hload, hnone⟩ := Option.map_eq_some_iff.1 hends
  have hno : ¬ ∃ verdict, r.validate d.name (.map []) = .ok verdict := by
    rintro ⟨verdict, hverdict⟩
    rw [hverdict] at hnone
    cases hnone
  have hload := Attempt.eq_ok_of_toOption hload
  obtain ⟨schema, hschema, hiff, -⟩ := exists_schema_of_load hload
  exact ⟨r, d, schema, hload, hschema, not_not.1 fun h => hno ((hiff _).2 h), hno⟩

end Registry

end SlidePress
