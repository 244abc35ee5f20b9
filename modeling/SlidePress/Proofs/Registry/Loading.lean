import SlidePress.Proofs.Deck.Faults
import SlidePress.Proofs.Schema.Compiling
import SlidePress.Registry.Basic

/-! # What loading a template ends in

A text that declares a template is registered, or there is a report: its YAML is malformed, its data
does not fit, or an expression in its schema is not well formed. A definition takes any mapping for
a schema, so compiling runs on data of every shape, and whatever else goes wrong there escapes as a
bare fault, as do the faults of YAML that nobody reports (`Registry.Escapes`).

`loading_ends` says which fault escapes from which text, when a text is registered and when an
expression is reported. -/

namespace SlidePress.Registry

open Attempt (bind_eq_error bind_eq_ok)
open Schema (Broken Endless Sound compile compile_eq_error_iff compile_eq_ok_iff orNothing_map)

/-- The documented ends of loading a text: its template is registered and returned, or there is a
report on it. -/
inductive Documented (r : Registry) (source : String) :
    Except LoadError (Registry × TemplateDefinition) → Prop
  | registered {t : Registered} : Documented r source (.ok (r.register t, t.definition))
  | malformed : Documented r source (.error (.malformed source))
  | unfit {issues : List Issue} : Documented r source (.error (.unfit source issues))
  | badPattern : Documented r source (.error (.badPattern source))

/-- A text holds the definition of a template, whose schema may be any mapping. -/
def Defines (s : String) (d : TemplateDefinition) : Prop :=
  ∃ v, Yaml.load s = .ok v ∧ TemplateDefinition.ofValue v = .ok d

/-- A fault of loading a text that is not turned into a report. -/
inductive Escapes (s : String) : Fault → Prop
  /-- The fault is one of the YAML of the text. -/
  | yaml {f : Fault} (h : Deck.Escapes s f) : Escapes s f
  /-- The schema fails with a fault other than that of an expression. -/
  | schema {d : TemplateDefinition} {f : Fault} (hd : Defines s d)
      (h : Broken ⟨[], .map d.schema⟩ f) (hf : f ≠ .malformedPattern) : Escapes s f
  /-- In the schema declarations are nested without end. -/
  | endless {d : TemplateDefinition} (hd : Defines s d) (h : Endless ⟨[], .map d.schema⟩) :
      Escapes s .tooDeep

variable {source s : String} {d : TemplateDefinition} {f : Fault}

/-! ### Texts that define no template -/

theorem declared_of_load_error (h : Yaml.load s = .error f) (hf : f ≠ .malformedYaml) :
    declared source s = .error (.fault f) := by
  unfold declared
  rw [h]
  cases f <;> first | rfl | exact absurd rfl hf

theorem yaml_escapes_iff : Deck.Escapes s f ↔ Yaml.load s = .error f ∧ f ≠ .malformedYaml :=
  Deck.ofText_eq_fault_iff.symm.trans Deck.ofText_eq_fault_iff_load

/-- What a text comes to that defines no template. -/
theorem declared_of_not_defines (source : String) (h : ∀ d, ¬ Defines s d) :
    declared source s = .error (.malformed source) ∨
      (∃ issues, declared source s = .error (.unfit source issues)) ∨
        ∃ f, Deck.Escapes s f ∧ declared source s = .error (.fault f) := by
  cases hload : Yaml.load s with
  | error f =>
    by_cases hf : f = .malformedYaml
    · refine Or.inl ?_
      unfold declared
      rw [hload, hf]
    · exact Or.inr (Or.inr ⟨f, yaml_escapes_iff.2 ⟨hload, hf⟩, declared_of_load_error hload hf⟩)
  | ok v =>
    cases hv : TemplateDefinition.ofValue v with
    | ok d => exact absurd ⟨v, hload, hv⟩ (h d)
    | error issues =>
      refine Or.inr (Or.inl ⟨issues, ?_⟩)
      unfold declared
      rw [hload]
      dsimp only
      rw [hv]

/-! ### Texts that define one -/

/-- Where a template is defined, its schema decides. -/
theorem Defines.declared_eq (h : Defines s d) : declared source s =
    match compile (.map d.schema) with
    | .error .malformedPattern => .error (.badPattern source)
    | .error f => .error (.fault f)
    | .ok schema => .ok ⟨d, schema⟩ := by
  obtain ⟨v, hload, hv⟩ := h
  unfold declared
  rw [hload]
  dsimp only
  rewrite [hv]
  rfl

theorem Defines.declared_ok (h : Defines s d) (source : String)
    (hsound : Sound ⟨[], .map d.schema⟩) :
    ∃ schema, declared source s = .ok ⟨d, schema⟩ := by
  rw [← orNothing_map] at hsound
  obtain ⟨schema, hc⟩ := compile_eq_ok_iff.2 hsound
  exact ⟨schema, by rw [h.declared_eq, hc]⟩

theorem Defines.declared_badPattern (h : Defines s d)
    (hb : Broken ⟨[], .map d.schema⟩ .malformedPattern) :
    declared source s = .error (.badPattern source) := by
  rw [← orNothing_map] at hb
  rw [h.declared_eq, compile_eq_error_iff.2 (Or.inl hb)]

theorem Defines.declared_fault (h : Defines s d) (hc : compile (.map d.schema) = .error f)
    (hf : f ≠ .malformedPattern) : declared source s = .error (.fault f) := by
  rw [h.declared_eq, hc]
  cases f <;> first | rfl | exact absurd rfl hf

/-! ### All texts -/

/-- **A fault that escapes** is what loading ends in. -/
theorem Escapes.declared_eq (h : Escapes s f) : declared source s = .error (.fault f) := by
  cases h with
  | yaml h =>
    obtain ⟨hload, hf⟩ := yaml_escapes_iff.1 h
    exact declared_of_load_error hload hf
  | schema hd h hf =>
    exact hd.declared_fault (compile_eq_error_iff.2 (Or.inl (by rwa [orNothing_map]))) hf
  | endless hd h =>
    exact hd.declared_fault (compile_eq_error_iff.2 (Or.inr ⟨rfl, by rwa [orNothing_map]⟩))
      (by decide)

/-- The outcomes of declaring a template, each with the reason for it. -/
inductive Ends (source s : String) : Except LoadError Registered → Prop
  | registered {t : Registered} (hd : Defines s t.definition)
      (h : Sound ⟨[], .map t.definition.schema⟩) : Ends source s (.ok t)
  | malformed : Ends source s (.error (.malformed source))
  | unfit {issues : List Issue} : Ends source s (.error (.unfit source issues))
  | badPattern {d : TemplateDefinition} (hd : Defines s d)
      (h : Broken ⟨[], .map d.schema⟩ .malformedPattern) :
    Ends source s (.error (.badPattern source))
  | fault {f : Fault} (h : Escapes s f) : Ends source s (.error (.fault f))

theorem Defines.ends (hd : Defines s d) : Ends source s (declared source s) := by
  cases hc : compile (.map d.schema) with
  | ok schema =>
    have hsound := compile_eq_ok_iff.1 ⟨schema, hc⟩
    rw [orNothing_map] at hsound
    rw [hd.declared_eq, hc]
    exact .registered hd hsound
  | error f =>
    have hfails := compile_eq_error_iff.1 hc
    rw [orNothing_map] at hfails
    by_cases hf : f = .malformedPattern
    · subst hf
      have hb := hfails.resolve_right fun h => by cases h.1
      rw [hd.declared_badPattern hb]
      exact .badPattern hd hb
    · rw [hd.declared_fault hc hf]
      rcases hfails with hb | ⟨rfl, he⟩
      · exact .fault (.schema hd hb hf)
      · exact .fault (.endless hd he)

theorem ends_declared (source s : String) : Ends source s (declared source s) := by
  by_cases hdef : ∃ d, Defines s d
  · obtain ⟨d, hd⟩ := hdef
    exact hd.ends
  · rcases declared_of_not_defines source (not_exists.1 hdef) with
      h | ⟨issues, h⟩ | ⟨f, hf, h⟩
    · rw [h]
      exact .malformed
    · rw [h]
      exact .unfit
    · rw [h]
      exact .fault (.yaml hf)

variable {r : Registry}

theorem load_eq_ok_iff {r' : Registry} : r.load source s = .ok (r', d) ↔
    ∃ t, declared source s = .ok t ∧ r' = r.register t ∧ d = t.definition := by
  unfold load
  rw [bind_eq_ok]
  refine exists_congr fun t => and_congr_right fun _ => ?_
  constructor
  · intro h
    cases h
    exact ⟨rfl, rfl⟩
  · rintro ⟨rfl, rfl⟩
    rfl

theorem load_eq_error_iff {e : LoadError} :
    r.load source s = .error e ↔ declared source s = .error e := by
  unfold load
  rw [bind_eq_error]
  exact or_iff_left fun ⟨_, _, h⟩ => by cases h

theorem load_eq_fault_iff : r.load source s = .error (.fault f) ↔ Escapes s f := by
  rw [load_eq_error_iff]
  refine ⟨fun h => ?_, Escapes.declared_eq⟩
  have hends := ends_declared source s
  rw [h] at hends
  cases hends
  assumption

theorem documented_or_escapes (r : Registry) (source s : String) :
    Documented r source (r.load source s) ∨ ∃ f, Escapes s f := by
  have hends := ends_declared source s
  cases hd : declared source s with
  | ok t =>
    rw [load_eq_ok_iff.2 ⟨t, hd, rfl, rfl⟩]
    exact Or.inl .registered
  | error e =>
    rw [load_eq_error_iff.2 hd]
    rw [hd] at hends
    cases hends with
    | malformed => exact Or.inl .malformed
    | unfit => exact Or.inl .unfit
    | badPattern => exact Or.inl .badPattern
    | fault h => exact Or.inr ⟨_, h⟩

theorem exists_load_iff :
    (∃ r', r.load source s = .ok (r', d)) ↔ Defines s d ∧ Sound ⟨[], .map d.schema⟩ := by
  constructor
  · rintro ⟨r', h⟩
    obtain ⟨t, ht, -, rfl⟩ := load_eq_ok_iff.1 h
    have hends := ends_declared source s
    rw [ht] at hends
    cases hends with
    | registered hd h => exact ⟨hd, h⟩
  · rintro ⟨hd, h⟩
    obtain ⟨schema, hs⟩ := hd.declared_ok source h
    exact ⟨r.register ⟨d, schema⟩, load_eq_ok_iff.2 ⟨_, hs, rfl, rfl⟩⟩

theorem load_eq_badPattern_iff : r.load source s = .error (.badPattern source) ↔
    ∃ d, Defines s d ∧ Broken ⟨[], .map d.schema⟩ .malformedPattern := by
  rw [load_eq_error_iff]
  constructor
  · intro h
    have hends := ends_declared source s
    rw [h] at hends
    cases hends with
    | badPattern hd hb => exact ⟨_, hd, hb⟩
  · exact fun ⟨d, hd, hb⟩ => hd.declared_badPattern hb

/-- **What loading a template ends in**, for every text: one of the documented ends, exactly if no
fault escapes from the text, and else in the very fault that escapes. A template is registered
exactly if its schema is sound all through, and a report on an expression comes exactly where the
first fault of the schema is that of an expression. -/
theorem loading_ends (r : Registry) (source s : String) :
    (Documented r source (r.load source s) ↔ ∀ f, ¬ Escapes s f) ∧
    (∀ f, r.load source s = .error (.fault f) ↔ Escapes s f) ∧
    (∀ d, (∃ r', r.load source s = .ok (r', d)) ↔ Defines s d ∧ Sound ⟨[], .map d.schema⟩) ∧
    (r.load source s = .error (.badPattern source) ↔
      ∃ d, Defines s d ∧ Broken ⟨[], .map d.schema⟩ .malformedPattern) := by
  refine ⟨⟨fun h f hf => ?_, fun h => ?_⟩, fun _ => load_eq_fault_iff, fun _ => exists_load_iff,
    load_eq_badPattern_iff⟩
  · rw [load_eq_fault_iff.2 hf] at h
    cases h
  · exact (documented_or_escapes r source s).resolve_right fun ⟨f, hf⟩ => h f hf

/-- A property that is declared by a number lets a fault escape. -/
example : (match empty.load "a.yaml" ("name: x\ndescription: d\ncategory: c\noutput: o\n" ++
      "schema: \x7bproperties: \x7ba: 5\x7d\x7d\n") with
    | .ok _ => none
    | .error e => some e) = some (.fault .noAttribute) := by
  decide +kernel

end SlidePress.Registry
