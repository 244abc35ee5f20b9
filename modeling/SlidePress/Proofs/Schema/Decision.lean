import SlidePress.Proofs.Schema.Report

/-! # Compiled schemas decide conformance

A schema that is well formed can be compiled, and what comes out approves exactly the values that
conform. The schemas inside one, its parts, are well formed again and hold fewer values, so the whole
is by induction on the number of values, which is what compiling is bounded by. -/

namespace SlidePress.Schema

/-! ### Parts -/

/-- The schemas inside a schema. -/
inductive Part (es : Entries) : Value → Prop
  | member {ms : List Value} {m : Value} (h : es.getD "oneOf" = .list ms) (hm : m ∈ ms) : Part es m
  | items (h : es.getD "items" ≠ .null) : Part es (es.getD "items")
  | field {ps : Entries} {p : Value × Value} (h : es.getD "properties" = .map ps) (hp : p ∈ ps) :
      Part es (orNothing p.2)

variable {es : Entries} {d : Value}

theorem wellFormed_nothing : WellFormed (.map []) :=
  .intro rfl (Or.inl rfl) (fun _ h => by cases h) (Or.inl rfl) (Or.inl rfl) (fun h => absurd rfl h)
    (Or.inl rfl) (Or.inl rfl) (Or.inl rfl) (fun _ h => by cases h) (Or.inl rfl)

theorem WellFormed.exists_map (h : WellFormed d) : ∃ es, d = .map es := by
  cases h
  exact ⟨_, rfl⟩

theorem orNothing_map (es : Entries) : orNothing (.map es) = .map es := by
  cases es <;> rfl

theorem WellFormed.part (h : WellFormed (.map es)) (hp : Part es d) : WellFormed d := by
  cases h with
  | intro _ _ members _ _ items _ _ _ declared _ =>
    cases hp with
    | member h hm => exact members _ h _ hm
    | items h => exact items h
    | @field ps p h hp =>
      by_cases hn : p.2 = .null
      · rw [hn]
        exact wellFormed_nothing
      · have hw := declared ps h p hp hn
        obtain ⟨fs, hfs⟩ := hw.exists_map
        rw [hfs, orNothing_map, ← hfs]
        exact hw

theorem nodes_pos (v : Value) : 0 < nodes v := by
  cases v <;> exact Nat.succ_pos _

theorem nodes_le_of_mem {x : Value} : ∀ {xs : List Value}, x ∈ xs → nodes x ≤ nodesList xs
  | y :: xs, h => by
    rw [nodesList]
    rcases List.mem_cons.1 h with rfl | h
    · exact Nat.le_add_right _ _
    · have := nodes_le_of_mem h
      omega

theorem nodes_le_of_mem_entries {e : Value × Value} :
    ∀ {es : Entries}, e ∈ es → nodes e.2 ≤ nodesEntries es
  | (k, v) :: es, h => by
    rw [nodesEntries]
    rcases List.mem_cons.1 h with rfl | h
    · show nodes v ≤ _
      omega
    · have := nodes_le_of_mem_entries h
      omega

theorem nodes_getD_lt {name : String} (h : es.getD name ≠ .null) :
    nodes (es.getD name) < nodes (.map es) := by
  obtain ⟨k, hk⟩ := Entries.mem_of_getD h
  rw [nodes, Nat.lt_succ_iff]
  exact nodes_le_of_mem_entries hk

theorem nodes_orNothing_le (v : Value) : nodes (orNothing v) ≤ nodes v := by
  unfold orNothing
  split_ifs
  · exact Nat.le_refl _
  · exact nodes_pos v

theorem Part.nodes_lt (h : Part es d) : nodes d < nodes (.map es) := by
  cases h with
  | @member ms _ h hm =>
    have hlt : nodes (es.getD "oneOf") < nodes (.map es) := nodes_getD_lt (by simp [h])
    have hle := nodes_le_of_mem hm
    rw [h, nodes] at hlt
    omega
  | items h => exact nodes_getD_lt h
  | @field ps p h hp =>
    have hlt : nodes (es.getD "properties") < nodes (.map es) := nodes_getD_lt (by simp [h])
    have hle := nodes_le_of_mem_entries hp
    have := nodes_orNothing_le p.2
    rw [h, nodes] at hlt
    omega

/-! ### Places -/

@[simp] theorem value_inner (p : Place) (v : Value) : (p.inner v).value = v := by
  unfold Place.inner
  split <;> rfl

/-- What is no list or mapping inside itself stands for itself. -/
theorem whole_eq {p : Place} (h : ∀ up isMap, p.value ≠ .again up isMap) : p.whole = p := by
  unfold Place.whole
  split
  · exact absurd ‹_› (h _ _)
  · rfl

theorem keyword_eq {p : Place} {name : String} {v : Value} (h : es.getD name = v)
    (hv : ∀ up isMap, v ≠ .again up isMap) : p.keyword es name = p.inner v := by
  unfold Place.keyword
  rw [h]
  exact whole_eq (by simpa using hv)

theorem MaybeList.keyword {name : String} (h : MaybeList es name) (p : Place) :
    p.keyword es name = p.inner (es.getD name) := by
  refine keyword_eq rfl fun up isMap ha => ?_
  rcases h with h | ⟨ms, h⟩
  · rw [h] at ha
    cases ha
  · rw [h] at ha
    cases ha

/-- The outline of a declaration that stands for itself. -/
theorem outline_map (around : List Value) (es : Entries) :
    outline ⟨around, .map es⟩ =
      let oneOf := Place.keyword ⟨around, .map es⟩ es "oneOf"
      if oneOf.value.truthy then do
        let items ← itemsOf oneOf.value
        return ⟨items.map oneOf.inner, choice⟩
      else if (typeOf es).hashable then outlineType ⟨around, .map es⟩ es (typeOf es)
      else .error .wrongType := rfl

/-! ### Compiling one level -/

/-- An outline comes out, with schemas inside a schema as its parts, and where their compiled forms
decide conformance, what is made of them approves exactly the values with a property. -/
def Outlines (es : Entries) (r : Attempt Outline) (C : Value → Prop) : Prop :=
  ∃ o, r = .ok o ∧ (∀ q ∈ o.parts, Part es q.value) ∧
    ∀ ss, DecideAll (fun q => Conforms q.value) o.parts ss → Decides (o.build ss) C

theorem Outlines.congr {r : Attempt Outline} {C D : Value → Prop} (h : Outlines es r C)
    (hcd : ∀ v, C v ↔ D v) : Outlines es r D := by
  obtain ⟨o, hr, hparts, hbuild⟩ := h
  exact ⟨o, hr, hparts, fun ss hss => (hbuild ss hss).congr hcd⟩

theorem outlines_plain {s : Schema} {C : Value → Prop} (h : Decides s C) :
    Outlines es (.ok (.plain s)) C :=
  ⟨.plain s, rfl, fun _ hq => absurd hq List.not_mem_nil, fun _ _ => h⟩

theorem exists_textRule (henum : MaybeList es "enum")
    (hpattern : es.getD "pattern" = .null ∨
      ∃ source p, es.getD "pattern" = .str source ∧ Pattern.parse source = .ok p) :
    ∃ rule, textRule (es.getD "enum") (es.getD "pattern") = .ok rule ∧ ∀ path, Textual path → ∀ s,
      Reports (checkText rule path s)
        ((∃ ms, Lists es "enum" ms ∧ ∃ m ∈ ms, m.text? = some s) ∨
          ListsNone es "enum" ∧ ∀ source p, es.getD "pattern" = .str source → source ≠ "" →
            Pattern.parse source = .ok p → p.search s = true) := by
  rcases henum.cases with ⟨ms, hms⟩ | ⟨hnone, hfalse⟩
  · refine ⟨.among (.list ms), ?_, fun _ hp s => (reports_among hp ms s).congr ?_⟩
    · unfold textRule
      rw [if_pos hms.truthy, hms.1]
      rfl
    · constructor
      · exact fun h => Or.inl ⟨ms, hms, h⟩
      · rintro (⟨ms', hms', h⟩ | ⟨hnone, -⟩)
        · rwa [Value.list.inj (hms.1.symm.trans hms'.1)]
        · exact absurd hms (hnone ms)
  · unfold textRule
    rw [if_neg (by simp [hfalse])]
    rcases hpattern with hp | ⟨source, p, hp, hparse⟩
    · rw [hp]
      exact ⟨.free, rfl, fun _ _ s => (reports_free s).congr (by simp [hnone])⟩
    · rw [hp]
      by_cases hs : source = ""
      · subst hs
        refine ⟨.free, rfl, fun _ _ s => (reports_free s).congr ?_⟩
        simp +contextual [hnone]
      · refine ⟨.matching source p, ?_, fun _ hp s => (reports_matching hp source p s).congr ?_⟩
        · show (if source.isEmpty then pure TextRule.free else _) = _
          rw [if_neg (by simpa using hs), Attempt.bind_ok hparse]
          rfl
        · constructor
          · intro h
            refine Or.inr ⟨hnone, fun source' p' hs' _ hparse' => ?_⟩
            obtain rfl := Value.str.inj hs'
            rwa [Except.ok.inj (hparse'.symm.trans hparse)]
          · rintro (⟨ms, hms, -⟩ | ⟨-, h⟩)
            · exact absurd hms (hnone ms)
            · exact h source p rfl hs hparse

theorem outlines_array (p : Place)
    (hitems : es.getD "items" ≠ .null → WellFormed (es.getD "items"))
    (hmin : MaybeInt es "minItems") (hmax : MaybeInt es "maxItems") :
    Outlines es (.ok (outlineArray p es)) fun v => ∃ xs, v = .list xs ∧
      (es.getD "items" ≠ .null → ∀ x ∈ Value.members xs, Conforms (es.getD "items") x) ∧
      (∀ n : Int, es.getD "minItems" = .int n → n ≤ xs.length) ∧
      (∀ n : Int, es.getD "maxItems" = .int n → xs.length ≤ n) := by
  by_cases hi : es.getD "items" = .null
  · have hkeyword : (p.keyword es "items").value = .null := by
      rw [keyword_eq hi (by simp), value_inner]
    have hplain : outlineArray p es = .plain (.array .anything (boundOf (es.getD "minItems"))
        (boundOf (es.getD "maxItems"))) := by
      unfold outlineArray
      simp only [hkeyword]
    rw [hplain]
    refine outlines_plain ((decides_array decides_anything hmin hmax).congr fun v => ?_)
    simp [hi]
  · obtain ⟨fs, hfs⟩ := (hitems hi).exists_map
    have hkeyword : (p.keyword es "items").value = es.getD "items" := by
      rw [keyword_eq rfl (by simp [hfs]), value_inner]
    have hpart : outlineArray p es = ⟨[p.keyword es "items"], fun parts =>
        .array (parts.headD .anything) (boundOf (es.getD "minItems"))
          (boundOf (es.getD "maxItems"))⟩ := by
      unfold outlineArray
      simp only
      split
      · exact absurd (hkeyword.symm.trans ‹_›) hi
      · rfl
    refine ⟨_, congrArg _ hpart, fun q hq => ?_, fun ss hss => ?_⟩
    · rw [List.mem_singleton.1 hq, hkeyword]
      exact .items hi
    · obtain ⟨s, _, hd, hnil, rfl⟩ := List.forall₂_cons_left_iff.1 hss
      rw [List.forall₂_nil_left_iff.1 hnil]
      simp only [hkeyword] at hd
      refine (decides_array hd hmin hmax).congr fun v => ?_
      simp [hi]

theorem exists_requiredOf {v : Value}
    (h : v = .null ∨ ∃ ks, v = .list ks ∧ ∀ k ∈ ks, ∃ s, k = .str s) :
    ∃ required, requiredOf v = .ok required ∧ (∀ k ∈ required, ∃ s, k = .str s) ∧
      ∀ k, k ∈ required ↔ ∃ ks, v = .list ks ∧ k ∈ ks := by
  rcases h with rfl | ⟨ks, rfl, hk⟩
  · exact ⟨[], rfl, by simp, by simp⟩
  · refine ⟨distinct ks, ?_, fun k hkm => hk k ((mem_distinct hk).1 hkm), fun k => ?_⟩
    · cases ks with
      | nil => rfl
      | cons k ks =>
        have hall : (k :: ks).all Value.hashable = true := List.all_eq_true.2 fun x hx => by
          obtain ⟨s, rfl⟩ := hk x hx
          rfl
        have ht : (Value.list (k :: ks)).truthy = true := rfl
        rw [requiredOf, if_pos ht, itemsOf, Attempt.bind_ok rfl, if_pos hall]
        rfl
    · rw [mem_distinct hk]
      simp

theorem zip_map_fst {ps : Entries} {C : Value → Value → Prop} {ss : List Schema}
    (h : List.Forall₂ (fun p s => Decides s (C p.2)) ps ss) :
    List.Forall₂ (fun p f => f.1 = p.1 ∧ Decides f.2 (C p.2)) ps ((ps.map Prod.fst).zip ss) := by
  induction h with
  | nil => exact .nil
  | cons hs _ ih => exact .cons ⟨rfl, hs⟩ ih

theorem outlines_object (p : Place) {ps : Entries} (hp : es.getD "properties" = .map ps)
    (hps : ∀ p ∈ ps, ∃ s, p.1 = .str s)
    (hr : es.getD "required" = .null ∨
      ∃ ks, es.getD "required" = .list ks ∧ ∀ k ∈ ks, ∃ s, k = .str s) :
    Outlines es (outlineObject p es) fun v => ∃ fs, v = .map fs ∧
      (∀ p ∈ ps, ∀ x, present? (Entries.members fs) p.1 = some x → Conforms (orNothing p.2) x) ∧
      ∀ ks, es.getD "required" = .list ks →
        ∀ k ∈ ks, (present? (Entries.members fs) k).isSome = true := by
  obtain ⟨required, hreq, hkeys, hmem⟩ := exists_requiredOf hr
  have hproperties : p.keyword es "properties" = p.inner (.map ps) := keyword_eq hp (by simp)
  have hrequired : (p.keyword es "required").value = es.getD "required" := by
    rw [MaybeList.keyword (hr.imp_right fun ⟨ks, hks, _⟩ => ⟨ks, hks⟩), value_inner]
  refine ⟨⟨ps.map fun e => (p.inner (.map ps)).inner (orNothing e.2),
    objectOf required (ps.map Prod.fst)⟩, ?_, fun q hq => ?_, fun ss hss => ?_⟩
  · unfold outlineObject
    rw [hproperties]
    simp only [value_inner]
    rw [hrequired, Attempt.bind_ok hreq]
    rfl
  · obtain ⟨e, he, rfl⟩ := List.mem_map.1 hq
    rw [value_inner]
    exact .field hp he
  · rw [DecideAll, List.forall₂_map_left_iff] at hss
    simp only [value_inner] at hss
    refine (decides_object (C := fun d => Conforms (orNothing d)) hkeys hps
      (zip_map_fst (C := fun d => Conforms (orNothing d)) hss)).congr fun v => ?_
    refine exists_congr fun fs => and_congr_right fun _ => and_congr_right fun _ => ?_
    constructor
    · exact fun h ks hks k hk => h k ((hmem k).2 ⟨ks, hks, hk⟩)
    · intro h k hk
      obtain ⟨ks, hks, hk⟩ := (hmem k).1 hk
      exact h ks hks k hk

theorem mem_typeNames {name : String} : name ∈ typeNames ↔ name = "string" ∨ name = "number" ∨
    name = "integer" ∨ name = "boolean" ∨ name = "array" ∨ name = "object" := by
  simp [typeNames]

theorem outlineType_unknown (p : Place) {type : Value}
    (h : ∀ name ∈ typeNames, type ≠ .str name) :
    outlineType p es type = .ok (.plain .anything) := by
  unfold outlineType
  split <;> first | rfl | exact absurd rfl (h _ (by decide))

theorem WellFormed.outlines_type (p : Place) (h : WellFormed (.map es))
    (ho : ListsNone es "oneOf") :
    Outlines es (outlineType p es (typeOf es)) (Conforms (.map es)) := by
  by_cases hn : ∃ name ∈ typeNames, typeOf es = .str name
  · obtain ⟨name, hn, ht⟩ := hn
    cases h with
    | intro _ _ _ enum pattern items minItems maxItems properties _ required =>
      rw [mem_typeNames] at hn
      rw [ht]
      rcases hn with rfl | rfl | rfl | rfl | rfl | rfl
      · obtain ⟨rule, hrule, hd⟩ := exists_textRule enum pattern
        have hpattern : p.keyword es "pattern" = p.inner (es.getD "pattern") := by
          refine keyword_eq rfl fun up isMap ha => ?_
          rcases pattern with hp | ⟨source, _, hp, -⟩
          · rw [hp] at ha
            cases ha
          · rw [hp] at ha
            cases ha
        rw [outlineType, enum.keyword, hpattern, value_inner, value_inner, Attempt.bind_ok hrule]
        exact outlines_plain ((decides_text hd).congr fun v => (conforms_string_iff ho ht).symm)
      · exact outlines_plain (decides_number.congr fun v => (conforms_number_iff ho ht).symm)
      · exact outlines_plain (decides_integer.congr fun v => (conforms_integer_iff ho ht).symm)
      · exact outlines_plain (decides_boolean.congr fun v => (conforms_boolean_iff ho ht).symm)
      · exact (outlines_array p items minItems maxItems).congr fun v =>
          (conforms_array_iff ho ht).symm
      · rcases properties with hp | ⟨ps, hp, hps⟩
        · have hnone : outlineObject p es = .ok (.plain .mapping) := by
            unfold outlineObject
            rw [keyword_eq hp (by simp)]
            simp only [value_inner]
            rfl
          rw [outlineType, hnone]
          exact outlines_plain (decides_mapping.congr fun v => (conforms_mapping_iff ho ht hp).symm)
        · exact (outlines_object p hp hps required).congr fun v =>
            (conforms_object_iff ho ht hp).symm
  · have hu : ∀ name ∈ typeNames, typeOf es ≠ .str name := fun name hm ht => hn ⟨name, hm, ht⟩
    rw [outlineType_unknown p hu]
    exact outlines_plain (decides_anything.congr fun v => by simp [Conforms.unknown ho hu])

theorem decides_choice {α : Type} {C : α → Value → Prop} {as : List α} {ss : List Schema}
    (h : DecideAll C as ss) : Decides (choice ss) fun v => ∃ a ∈ as, C a v := by
  match as, ss, h with
  | _, [], h => exact decides_union h
  | _, [s], .cons hs .nil => exact hs.congr fun v => by simp
  | _, s :: t :: ss, h => exact decides_union h

theorem outlines_oneOf {around : List Value} {ms : List Value} (h : Lists es "oneOf" ms) :
    Outlines es (outline ⟨around, .map es⟩) (Conforms (.map es)) := by
  have honeOf : (⟨around, .map es⟩ : Place).keyword es "oneOf" = ⟨.map es :: around, .list ms⟩ :=
    keyword_eq h.1 (by simp)
  refine ⟨⟨ms.map (Place.inner ⟨.map es :: around, .list ms⟩), choice⟩, ?_, fun q hq => ?_,
    fun ss hss => ?_⟩
  · rw [outline_map, honeOf]
    have ht : (Value.list ms).truthy = true := h.1 ▸ h.truthy
    simp only [ht, if_true]
    rfl
  · obtain ⟨m, hm, rfl⟩ := List.mem_map.1 hq
    rw [value_inner]
    exact .member h.1 hm
  · rw [DecideAll, List.forall₂_map_left_iff] at hss
    simp only [value_inner] at hss
    exact (decides_choice hss).congr fun v => (conforms_oneOf_iff h).symm

theorem WellFormed.outlines (h : WellFormed (.map es)) (around : List Value) :
    Outlines es (outline ⟨around, .map es⟩) (Conforms (.map es)) := by
  have htype : (typeOf es).hashable = true ∧ MaybeList es "oneOf" := by
    cases h with
    | intro type oneOf => exact ⟨type, oneOf⟩
  rcases htype.2.cases with ⟨ms, hms⟩ | ⟨ho, hfalse⟩
  · exact outlines_oneOf hms
  · rw [outline_map, htype.2.keyword]
    simp only [value_inner, hfalse, htype.1, if_true, Bool.false_eq_true, if_false]
    exact h.outlines_type _ ho

/-! ### All levels -/

/-- A schema comes out, and it approves exactly the values with a property. -/
def Yields (r : Attempt Schema) (C : Value → Prop) : Prop := ∃ s, r = .ok s ∧ Decides s C

theorem WellFormed.yields_at : ∀ {n : Nat} {d : Value}, WellFormed d → nodes d ≤ n →
    ∀ around, Yields (compileAt n ⟨around, d⟩) (Conforms d)
  | 0, d, _, hn, _ => by
    have := nodes_pos d
    omega
  | n + 1, d, h, hn, around => by
    obtain ⟨es, rfl⟩ := h.exists_map
    obtain ⟨o, ho, hparts, hbuild⟩ := h.outlines around
    have hpart : ∀ q ∈ o.parts, ∃ s, compileAt n q = .ok s ∧ Decides s (Conforms q.value) :=
      fun q hq => by
        have := (hparts q hq).nodes_lt
        exact yields_at (h.part (hparts q hq)) (by omega) q.around
    obtain ⟨ss, hss, hall⟩ := Attempt.exists_mapM hpart
    exact ⟨o.build ss, by rw [compileAt, Attempt.bind_ok ho, Attempt.bind_ok hss]; rfl,
      hbuild ss hall⟩

/-- An answer: yes, no or a whole number. -/
def answer : Value :=
  .map (Entries.ofNames [ ("oneOf", .list [
    .map (Entries.ofNames [ ("type", .str "string"), ("enum", .list [ .str "yes", .str "no"])]),
    .map (Entries.ofNames [ ("type", .str "integer")])])])

end SlidePress.Schema
