import SlidePress.Proofs.Schema.Decision
import SlidePress.Proofs.Schema.Depth

/-! # What a declaration is compiled to

One rule for each form of declaration: which constructor of `Schema` it is compiled to, and that the
declarations in it are compiled to the schemas in that (`Declares`). A declaration that is well formed
is compiled to what decides conformance to it (`Declares.decides`), so the rules say of one and the
same schema how it is built and what it approves.

* `Declares.oneOf`, `Declares.string`, `Declares.array` and so on: the rules.
* `WellFormed.induction`: well-formed declarations, from the inside out. -/

namespace SlidePress.Schema

/-- A declaration is compiled to a schema, at some place and to some depth. -/
def Declares (d : Value) (s : Schema) : Prop := ∃ n around, compileAt n ⟨around, d⟩ = .ok s

variable {es : Entries} {d : Value} {s : Schema}

/-- Declarations that are well formed, from the inside out. -/
theorem WellFormed.induction {P : Value → Prop}
    (step : ∀ es, WellFormed (.map es) → (∀ d, Part es d → P d) → P (.map es)) :
    ∀ {d : Value}, WellFormed d → P d := by
  intro d hd
  obtain ⟨es, rfl⟩ := hd.exists_map
  exact step es hd fun d hpart =>
    have := hpart.nodes_lt
    WellFormed.induction step (hd.part hpart)
termination_by d => nodes d

section

variable (h : WellFormed (.map es))

include h

theorem WellFormed.oneOf : MaybeList es "oneOf" := by
  cases h with
  | intro _ oneOf => exact oneOf

theorem WellFormed.bounds : MaybeInt es "minItems" ∧ MaybeInt es "maxItems" := by
  cases h with
  | intro _ _ _ _ _ _ minItems maxItems => exact ⟨minItems, maxItems⟩

theorem WellFormed.properties : es.getD "properties" = .null ∨
    ∃ ps, es.getD "properties" = .map ps ∧ ∀ p ∈ ps, ∃ name, p.1 = .str name := by
  cases h with
  | intro _ _ _ _ _ _ _ _ properties => exact properties

theorem WellFormed.names {ps : Entries} (hp : es.getD "properties" = .map ps) :
    ∀ p ∈ ps, ∃ name, p.1 = .str name := by
  rcases h.properties with hnull | ⟨ps', hps, hnames⟩
  · rw [hnull] at hp
    cases hp
  · obtain rfl := Value.map.inj (hps.symm.trans hp)
    exact hnames

theorem WellFormed.required : es.getD "required" = .null ∨
    ∃ ks, es.getD "required" = .list ks ∧ ∀ k ∈ ks, ∃ name, k = .str name := by
  cases h with
  | intro _ _ _ _ _ _ _ _ _ _ required => exact required

end

/-! ### From the outline -/

/-- What a declaration is compiled to is built from what the declarations in it are compiled to. -/
theorem Declares.exists_outline (h : Declares (.map es) s) :
    ∃ around o ss, outline ⟨around, .map es⟩ = .ok o ∧
      List.Forall₂ (fun q s => Declares q.value s) o.parts ss ∧ s = o.build ss := by
  obtain ⟨n, around, hs⟩ := h
  cases n with
  | zero => cases hs
  | succ n =>
    rw [compileAt] at hs
    obtain ⟨o, ho, hs⟩ := Attempt.bind_eq_ok.1 hs
    obtain ⟨ss, hss, hs⟩ := Attempt.bind_eq_ok.1 hs
    refine ⟨around, o, ss, ho, (Attempt.mapM_eq_ok.1 hss).imp fun q s hq => ?_,
      (Except.ok.inj hs).symm⟩
    exact ⟨n, q.around, hq⟩

/-- Alternatives are compiled one by one. -/
theorem Declares.oneOf {ms : List Value} (h : Declares (.map es) s) (hms : Lists es "oneOf" ms) :
    ∃ ss, List.Forall₂ Declares ms ss ∧ s = choice ss := by
  obtain ⟨around, o, ss, ho, hparts, rfl⟩ := h.exists_outline
  have honeOf : (⟨around, .map es⟩ : Place).keyword es "oneOf" = ⟨.map es :: around, .list ms⟩ :=
    keyword_eq hms.1 (by simp)
  have ht : (Value.list ms).truthy = true := hms.1 ▸ hms.truthy
  rw [outline_map, honeOf] at ho
  simp only [ht, if_true] at ho
  cases ho
  rw [List.forall₂_map_left_iff] at hparts
  simp only [value_inner] at hparts
  exact ⟨ss, hparts, rfl⟩

/-- A declaration without alternatives is compiled by its type. -/
theorem Declares.exists_outlineType (h : Declares (.map es) s) (hd : WellFormed (.map es))
    (ho : ListsNone es "oneOf") :
    ∃ p o ss, outlineType p es (typeOf es) = .ok o ∧
      List.Forall₂ (fun q s => Declares q.value s) o.parts ss ∧ s = o.build ss := by
  obtain ⟨around, o, ss, houtline, hparts, rfl⟩ := h.exists_outline
  have hfalse : (es.getD "oneOf").truthy = false := by
    rcases hd.oneOf.cases with ⟨ms, hms⟩ | ⟨-, hfalse⟩
    · exact absurd hms (ho ms)
    · exact hfalse
  rw [outline_map, hd.oneOf.keyword] at houtline
  simp only [value_inner, hfalse, Bool.false_eq_true, if_false] at houtline
  split_ifs at houtline
  exact ⟨_, o, ss, houtline, hparts, rfl⟩

section

variable (h : Declares (.map es) s) (hd : WellFormed (.map es)) (ho : ListsNone es "oneOf")

include h hd ho

/-- Texts are free, or one of some values, or an expression matches in them. -/
theorem Declares.string (ht : typeOf es = .str "string") :
    (ListsNone es "enum" ∧ (∀ source, es.getD "pattern" = .str source → source = "") ∧
        s = .text .free) ∨
      (∃ ms, Lists es "enum" ms ∧ s = .text (.among (.list ms))) ∨
      ∃ source p, ListsNone es "enum" ∧ es.getD "pattern" = .str source ∧ source ≠ "" ∧
        Pattern.parse source = .ok p ∧ s = .text (.matching source p) := by
  obtain ⟨p, o, ss, houtline, hparts, rfl⟩ := h.exists_outlineType hd ho
  cases hd with
  | intro _ _ _ enum pattern =>
    have hpattern : (p.keyword es "pattern").value = es.getD "pattern" := by
      rw [keyword_eq rfl fun up isMap ha => ?_, value_inner]
      rcases pattern with hp | ⟨source, _, hp, -⟩ <;> simp [hp] at ha
    rw [ht, outlineType, enum.keyword, value_inner, hpattern] at houtline
    obtain ⟨rule, hrule, hplain⟩ := Attempt.bind_eq_ok.1 houtline
    cases hplain
    unfold textRule at hrule
    rcases enum.cases with ⟨ms, hms⟩ | ⟨hnone, hfalse⟩
    · rw [if_pos hms.truthy, hms.1] at hrule
      cases hrule
      exact Or.inr (Or.inl ⟨ms, hms, rfl⟩)
    · rw [if_neg (by simp [hfalse])] at hrule
      rcases pattern with hp | ⟨source, q, hp, hparse⟩
      · rw [hp] at hrule
        cases hrule
        exact Or.inl ⟨hnone, by simp [hp], rfl⟩
      · rw [hp] at hrule
        simp only at hrule
        split_ifs at hrule with hs
        · cases hrule
          exact Or.inl ⟨hnone, by simpa [hp] using hs, rfl⟩
        · rw [Attempt.bind_ok hparse] at hrule
          cases hrule
          exact Or.inr (Or.inr ⟨source, q, hnone, hp, by simpa using hs, hparse, rfl⟩)

theorem Declares.number (ht : typeOf es = .str "number") : s = .number := by
  obtain ⟨p, o, ss, houtline, hparts, rfl⟩ := h.exists_outlineType hd ho
  rw [ht] at houtline
  cases houtline
  rfl

theorem Declares.integer (ht : typeOf es = .str "integer") : s = .integer := by
  obtain ⟨p, o, ss, houtline, hparts, rfl⟩ := h.exists_outlineType hd ho
  rw [ht] at houtline
  cases houtline
  rfl

theorem Declares.boolean (ht : typeOf es = .str "boolean") : s = .boolean := by
  obtain ⟨p, o, ss, houtline, hparts, rfl⟩ := h.exists_outlineType hd ho
  rw [ht] at houtline
  cases houtline
  rfl

theorem Declares.unknown (ht : ∀ name ∈ typeNames, typeOf es ≠ .str name) : s = .anything := by
  obtain ⟨p, o, ss, houtline, hparts, rfl⟩ := h.exists_outlineType hd ho
  rw [outlineType_unknown p ht] at houtline
  cases houtline
  rfl

/-- The items of an array are free or checked against the schema for items. -/
theorem Declares.array (ht : typeOf es = .str "array") :
    ∃ items, s = .array items (boundOf (es.getD "minItems")) (boundOf (es.getD "maxItems")) ∧
      (es.getD "items" = .null → items = .anything) ∧
      (es.getD "items" ≠ .null → Declares (es.getD "items") items) := by
  obtain ⟨p, o, ss, houtline, hparts, rfl⟩ := h.exists_outlineType hd ho
  rw [ht] at houtline
  obtain rfl : outlineArray p es = o := Except.ok.inj houtline
  have hkeyword : (p.keyword es "items").value = es.getD "items" := by
    rw [keyword_eq rfl fun up isMap ha => ?_, value_inner]
    obtain ⟨fs, hfs⟩ := (hd.part (.items (by simp [ha]))).exists_map
    simp [hfs] at ha
  unfold outlineArray at hparts ⊢
  simp only at hparts ⊢
  split at hparts
  · rename_i hnull
    exact ⟨.anything, rfl, fun _ => rfl, fun hi => absurd (hkeyword ▸ hnull) hi⟩
  · rename_i hne
    obtain ⟨items, _, hitems, hnil, rfl⟩ := List.forall₂_cons_left_iff.1 hparts
    rw [hkeyword] at hitems hne
    exact ⟨items, rfl, fun hi => absurd hi hne, fun _ => hitems⟩

theorem Declares.mapping (ht : typeOf es = .str "object") (hp : es.getD "properties" = .null) :
    s = .mapping := by
  obtain ⟨p, o, ss, houtline, hparts, rfl⟩ := h.exists_outlineType hd ho
  rw [ht, outlineType, outlineObject, keyword_eq hp (by simp)] at houtline
  simp only [value_inner] at houtline
  cases houtline
  rfl

theorem Declares.object {ps : Entries} (ht : typeOf es = .str "object")
    (hp : es.getD "properties" = .map ps) :
    ∃ required ss, requiredOf (es.getD "required") = .ok required ∧
      List.Forall₂ (fun p s => Declares (orNothing p.2) s) ps ss ∧
      s = objectOf required (ps.map Prod.fst) ss := by
  obtain ⟨p, o, ss, houtline, hparts, rfl⟩ := h.exists_outlineType hd ho
  have hrequired : (p.keyword es "required").value = es.getD "required" := by
    rw [MaybeList.keyword (hd.required.imp_right fun ⟨ks, hks, _⟩ => ⟨ks, hks⟩), value_inner]
  rw [ht, outlineType, outlineObject, keyword_eq hp (by simp)] at houtline
  simp only [value_inner] at houtline
  obtain ⟨required, hreq, houtline⟩ := Attempt.bind_eq_ok.1 houtline
  cases houtline
  rw [List.forall₂_map_left_iff] at hparts
  simp only [value_inner] at hparts
  exact ⟨required, ss, hrequired ▸ hreq, hparts, rfl⟩

end

end SlidePress.Schema
