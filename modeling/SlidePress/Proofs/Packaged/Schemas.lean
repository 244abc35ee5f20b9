import SlidePress.Proofs.Registry.History
import SlidePress.Proofs.Schema.Decision
import SlidePress.Proofs.Value.Data

/-! # The schemas of the packaged templates

The forms that the packaged templates declare their schemas with are well formed, and each says what
it admits (`conforms_text`, `conforms_listOf`, `conforms_fields` and so on). So all packaged templates
are registered (`get?_register_empty`), and content that is checked against one of them is approved
exactly if it conforms (`WellFormed.exists_validate`). -/

namespace SlidePress

namespace Schema

/-- **Checking content** against a schema that is well formed gives a verdict, which is favourable
exactly if the content conforms. -/
theorem WellFormed.exists_validate {d : Value} (h : WellFormed d) (v : Value) :
    ∃ r, validate d v = .ok r ∧ (r.valid = true ↔ Conforms d v) := by
  obtain ⟨es, rfl⟩ := h.exists_map
  obtain ⟨s, hs, hd⟩ := h.yields_at (Nat.le_succ _) []
  obtain ⟨errors, he, hc⟩ := hd [] textual_nil v
  have hcompile : compile (.map es) = .ok s := by
    rw [compile, orNothing_map]
    exact hs
  have hverdict : s.verdict v = .ok (Verdict.ofErrors errors) := Attempt.bind_ok he _
  refine ⟨Verdict.ofErrors errors, (Attempt.bind_ok hcompile _).trans hverdict, ?_⟩
  rw [← hc, Verdict.ofErrors, List.isEmpty_iff]

theorem WellFormed.exists_compile {d : Value} (h : WellFormed d) : ∃ s, compile d = .ok s := by
  obtain ⟨es, rfl⟩ := h.exists_map
  obtain ⟨s, hs, -⟩ := h.yields_at (Nat.le_succ _) []
  exact ⟨s, by rw [compile, orNothing_map]; exact hs⟩

/-- What a check sees in a field. -/
theorem present?_members_eq_some {es : Entries} {name : String} {x : Value} :
    present? es.members (.str name) = some x ↔
      ∃ v, es.get? name = some v ∧ Value.outOf (.map es) 0 v = x ∧ x ≠ .null := by
  have hget : es.members.find? (.str name) = (es.get? name).map (Value.outOf (.map es) 0) :=
    Entries.get?_outOfEntries (.map es) 0 es name
  rw [present?_eq_some, hget, Option.map_eq_some_iff]
  constructor
  · rintro ⟨⟨v, hv, hx⟩, hn⟩
    exact ⟨v, hv, hx, hn⟩
  · rintro ⟨v, hv, hx, hn⟩
    exact ⟨⟨v, hv, hx⟩, hn⟩

theorem isSome_present?_members {es : Entries} {name : String} {v : Value}
    (hv : es.get? name = some v) (hnull : Value.outOf (.map es) 0 v ≠ .null) :
    (present? es.members (.str name)).isSome = true :=
  Option.isSome_of_eq_some (present?_members_eq_some.2 ⟨v, hv, rfl, hnull⟩)

end Schema

namespace Packaged

open Schema

variable {v : Value}

/-! ### Forms -/

theorem wellFormed_kind (name : String) : WellFormed (kind name) :=
  .intro rfl (.inl rfl) (fun _ h => by cases h) (.inl rfl) (.inl rfl) (fun h => absurd rfl h)
    (.inl rfl) (.inl rfl) (.inl rfl) (fun _ h => by cases h) (.inl rfl)

theorem conforms_text : Conforms text v ↔ ∃ s, v.text? = some s := by
  have henum : ListsNone (Entries.ofNames [("type", .str "string")]) "enum" := fun _ h => by
    cases h.1
  have hpattern : Entries.getD (Entries.ofNames [("type", .str "string")]) "pattern" = .null := rfl
  refine (conforms_string_iff (fun _ h => by cases h.1) rfl).trans ?_
  refine exists_congr fun s => and_iff_left (.inr ⟨henum, fun source p hs => ?_⟩)
  rw [hpattern] at hs
  cases hs

theorem conforms_integer : Conforms integer v ↔ ∃ n, v = .int n ∨
    ∃ x, v = .float x ∧ Number.Equals x n :=
  conforms_integer_iff (fun _ h => by cases h.1) rfl

theorem conforms_boolean : Conforms (kind "boolean") v ↔ ∃ b, v = .bool b :=
  conforms_boolean_iff (fun _ h => by cases h.1) rfl

theorem wellFormed_oneOf {ms : List Value} (h : ∀ m ∈ ms, WellFormed m) :
    WellFormed (.map (Entries.ofNames [("oneOf", .list ms)])) :=
  .intro rfl (.inr ⟨ms, rfl⟩) (fun _ hms => by cases hms; exact h) (.inl rfl) (.inl rfl)
    (fun h => absurd rfl h) (.inl rfl) (.inl rfl) (.inl rfl) (fun _ h => by cases h) (.inl rfl)

/-- The schema of texts that are among some. -/
def among (ms : List Value) : Value :=
  .map (Entries.ofNames [("type", .str "string"), ("enum", .list ms)])

theorem wellFormed_among (ms : List Value) : WellFormed (among ms) :=
  .intro rfl (.inl rfl) (fun _ h => by cases h) (.inr ⟨ms, rfl⟩) (.inl rfl) (fun h => absurd rfl h)
    (.inl rfl) (.inl rfl) (.inl rfl) (fun _ h => by cases h) (.inl rfl)

theorem conforms_among {ms : List Value} (hms : ms ≠ []) :
    Conforms (among ms) v ↔ ∃ s, v.text? = some s ∧ ∃ m ∈ ms, m.text? = some s := by
  refine (conforms_string_iff (fun _ h => by cases h.1) rfl).trans ?_
  refine exists_congr fun s => and_congr_right fun _ => ?_
  have hlists : Schema.Lists (Entries.ofNames [("type", .str "string"), ("enum", .list ms)]) "enum"
    ms := ⟨rfl, hms⟩
  constructor
  · rintro (⟨ms', h, hm⟩ | ⟨h, -⟩)
    · cases h.1
      exact hm
    · exact absurd hlists (h ms)
  · exact fun h => .inl ⟨ms, hlists, h⟩

/-! ### Lists -/

/-- The names of bounds. -/
def boundNames : List String := ["minItems", "maxItems"]

/-- These are bounds. -/
def Bounds (bounds : List (String × Value)) : Prop :=
  ∀ b ∈ bounds, b.1 ∈ boundNames ∧ ∃ n : Int, b.2 = .int n

section

variable {bounds : List (String × Value)} {items : Value} (hb : Bounds bounds)
include hb

/-- Bounds are no other keyword. -/
theorem getD_listOf {name : String} (hn : name ∉ boundNames) :
    Entries.getD (Entries.ofNames ([("type", .str "array")] ++ bounds ++ [("items", items)])) name =
      (List.lookup name [("type", .str "array"), ("items", items)]).getD .null := by
  have hnone : bounds.lookup name = none := List.lookup_eq_none_iff.2 fun b hbm => by
    refine bne_iff_ne.2 ?_
    rintro rfl
    exact hn (hb b hbm).1
  rw [Entries.getD_ofNames, List.lookup_append, List.lookup_append, hnone, Option.or_none,
    ← List.lookup_append]
  rfl

theorem maybeInt_listOf {name : String} (hn : name ∈ boundNames) :
    MaybeInt (Entries.ofNames ([("type", .str "array")] ++ bounds ++ [("items", items)])) name := by
  have hends : List.lookup name [("type", Value.str "array")] = none ∧
      List.lookup name [("items", items)] = none := by
    rcases List.mem_pair.1 hn with rfl | rfl <;> exact ⟨rfl, rfl⟩
  rw [MaybeInt, Entries.getD_ofNames, List.lookup_append, List.lookup_append, hends.1, hends.2,
    Option.or_none, Option.none_or]
  rcases hlookup : bounds.lookup name with _ | v
  · exact .inl rfl
  · obtain ⟨l, r, hsplit, -⟩ := List.lookup_eq_some_iff.1 hlookup
    obtain ⟨-, n, hn⟩ := hb (name, v) (by rw [hsplit]; simp)
    exact .inr ⟨n, hn⟩

theorem wellFormed_listOf (hitems : WellFormed items) : WellFormed (listOf bounds items) := by
  have hkeyword {name : String} (hn : name ∉ boundNames) : _ = (List.lookup name
      [("type", .str "array"), ("items", items)]).getD .null := getD_listOf hb hn
  have hitemsKeyword : _ = items := hkeyword (by decide : "items" ∉ boundNames)
  refine .intro ?_ (.inl (hkeyword (by decide))) (fun _ h => ?_) (.inl (hkeyword (by decide)))
    (.inl (hkeyword (by decide))) (fun _ => ?_) (maybeInt_listOf hb (by decide))
    (maybeInt_listOf hb (by decide)) (.inl (hkeyword (by decide))) (fun _ h => ?_)
    (.inl (hkeyword (by decide)))
  · rfl
  · rw [hkeyword (by decide)] at h
    cases h
  · rw [hitemsKeyword]
    exact hitems
  · rw [hkeyword (by decide)] at h
    cases h

/-- What conforms to the schema of a list is a list of what conforms to the schema of its items. -/
theorem items_of_conforms_listOf (hitems : items ≠ .null) (h : Conforms (listOf bounds items) v) :
    ∃ xs, v = .list xs ∧ ∀ x ∈ Value.members xs, Conforms items x := by
  have hitemsKeyword : _ = items := getD_listOf hb (by decide : "items" ∉ boundNames)
  obtain ⟨xs, rfl, hxs, -⟩ := (conforms_array_iff (fun ms h => by
    rw [Schema.Lists, getD_listOf hb (by decide)] at h
    cases h.1) rfl).1 h
  refine ⟨xs, rfl, fun x hx => ?_⟩
  have hx := hxs (by rw [hitemsKeyword]; exact hitems) x hx
  rwa [hitemsKeyword] at hx

end

theorem bounds_nil : Bounds [] := fun _ h => by cases h

/-- Without bounds, these are all the lists that conform. -/
theorem conforms_listOf_nil {items : Value} (hitems : items ≠ .null) :
    Conforms (listOf [] items) v ↔ ∃ xs, v = .list xs ∧ ∀ x ∈ Value.members xs, Conforms items x := by
  refine ⟨items_of_conforms_listOf bounds_nil hitems, ?_⟩
  rintro ⟨xs, rfl, hxs⟩
  exact .array (fun _ h => by cases h.1) rfl (fun _ => hxs) (fun _ h => by cases h) fun _ h => by
    cases h

/-! ### Fields -/

section

variable {required : List String} {properties : List (String × Value)}

theorem getD_fields {name : String} (hn : name ≠ "required") :
    Entries.getD (fields required properties) name = (List.lookup name
      [("type", .str "object"), ("properties", .map (Entries.ofNames properties))]).getD .null := by
  unfold fields
  rw [Entries.getD_ofNames]
  split
  · rfl
  · have hnone : List.lookup name [("required", Value.list (required.map .str))] = none := by
      rw [Registry.lookup_cons, if_neg hn, List.lookup_nil]
    rw [List.lookup_append, List.lookup_append, hnone, Option.or_none, ← List.lookup_append]
    rfl

theorem required_fields : Entries.getD (fields required properties) "required" =
    if required.isEmpty then .null else .list (required.map .str) := by
  unfold fields
  split <;> rfl

theorem wellFormed_fields (h : ∀ p ∈ properties, WellFormed p.2) :
    WellFormed (.map (fields required properties)) := by
  have hkeyword {name : String} (hn : name ≠ "required") :=
    @getD_fields required properties name hn
  refine .intro ?_ (.inl (hkeyword (by decide))) (fun _ h => ?_) (.inl (hkeyword (by decide)))
    (.inl (hkeyword (by decide))) (fun h => absurd (hkeyword (by decide)) h)
    (.inl (hkeyword (by decide))) (.inl (hkeyword (by decide)))
    (.inr ⟨_, hkeyword (by decide), fun p hp => ?_⟩) (fun ps hps p hp _ => ?_) ?_
  · rfl
  · rw [hkeyword (by decide)] at h
    cases h
  · obtain ⟨q, -, rfl⟩ := List.mem_map.1 hp
    exact ⟨q.1, rfl⟩
  · rw [hkeyword (by decide)] at hps
    cases hps
    obtain ⟨q, hq, rfl⟩ := List.mem_map.1 hp
    exact h q hq
  · rw [required_fields]
    split
    · exact .inl rfl
    · refine .inr ⟨_, rfl, fun k hk => ?_⟩
      obtain ⟨name, -, rfl⟩ := List.mem_map.1 hk
      exact ⟨name, rfl⟩

/-- What conforms to the schema of some fields is a mapping, where the fields that are there conform
to their own schemas and the required ones are there. -/
theorem conforms_fields : Conforms (.map (fields required properties)) v ↔ ∃ es, v = .map es ∧
    (∀ p ∈ properties, ∀ x, present? (Entries.members es) (.str p.1) = some x →
      Conforms (orNothing p.2) x) ∧
    ∀ name ∈ required, (present? (Entries.members es) (.str name)).isSome = true := by
  have honeOf : ListsNone (fields required properties) "oneOf" := fun ms h => by
    rw [Schema.Lists, getD_fields (by decide)] at h
    cases h.1
  refine (conforms_object_iff honeOf rfl (getD_fields (by decide))).trans ?_
  refine exists_congr fun es => and_congr_right fun _ => and_congr ?_ ?_
  · rw [Entries.ofNames, List.forall_mem_map]
  · rw [required_fields]
    constructor
    · intro h name hname
      have hrequired : required.isEmpty = false := by
        cases required with
        | nil => cases hname
        | cons => rfl
      refine h _ (if_neg (by simp [hrequired])) _ (List.mem_map_of_mem hname)
    · intro h ks hks k hk
      split at hks
      · cases hks
      · cases hks
        obtain ⟨name, hname, rfl⟩ := List.mem_map.1 hk
        exact h name hname

end

/-! ### The templates -/

theorem bounds_some : Bounds some_ := fun b hb => by
  rw [List.mem_singleton.1 hb]
  exact ⟨by decide, 1, rfl⟩

/-- These are all the lists that conform where a list has to hold something. -/
theorem conforms_listOf_some {items : Value} (hitems : items ≠ .null) :
    Conforms (listOf some_ items) v ↔
      ∃ xs, v = .list xs ∧ xs ≠ [] ∧ ∀ x ∈ Value.members xs, Conforms items x := by
  have hkind : typeOf (Entries.ofNames ([("type", .str "array")] ++ some_ ++ [("items", items)])) =
      .str "array" := rfl
  have harray := conforms_array_iff (v := v) (fun _ h => by cases h.1) hkind
  refine harray.trans (exists_congr fun xs => and_congr_right fun _ => ?_)
  constructor
  · rintro ⟨hxs, hmin, -⟩
    refine ⟨?_, hxs hitems⟩
    rintro rfl
    have hone : (1 : Int) ≤ 0 := hmin 1 rfl
    omega
  · rintro ⟨hne, hxs⟩
    refine ⟨fun _ => hxs, fun n hn => ?_, fun _ h => by cases h⟩
    cases hn
    have hlength := List.length_pos_iff.2 hne
    omega

/-- Texts are the same wherever they are taken out of. -/
theorem outOfList_texts (whole : Value) (depth : Nat) (ss : List String) :
    Value.outOfList whole depth (ss.map .str) = ss.map .str := by
  rw [Value.outOfList_eq_map, List.map_map]
  rfl

theorem outOf_texts (whole : Value) (depth : Nat) (ss : List String) :
    Value.outOf whole depth (.list (ss.map .str)) = .list (ss.map .str) :=
  congrArg Value.list (outOfList_texts whole (depth + 1) ss)

theorem conforms_texts {ss : List String} (hne : ss ≠ []) :
    Conforms (listOf some_ text) (.list (ss.map .str)) := by
  refine (conforms_listOf_some (by simp [text, kind])).2 ⟨_, rfl, by simpa using hne, fun x hx => ?_⟩
  rw [Value.members, outOfList_texts] at hx
  obtain ⟨s, -, rfl⟩ := List.mem_map.1 hx
  exact conforms_text.2 ⟨s, rfl⟩

theorem bounds_cards : Bounds (some_ ++ [("maxItems", .int 6)]) := fun b hb => by
  rcases List.mem_pair.1 hb with rfl | rfl
  · exact ⟨by decide, 1, rfl⟩
  · exact ⟨by decide, 6, rfl⟩

theorem wellFormed_text : WellFormed text := wellFormed_kind "string"

/-- **The schemas of the packaged templates** are well formed. -/
theorem wellFormed_schema {d : TemplateDefinition} (hd : d ∈ definitions) :
    WellFormed (.map d.schema) := by
  have htext := wellFormed_text
  have htexts : WellFormed (listOf some_ text) := wellFormed_listOf bounds_some htext
  have hlist : WellFormed (.map listSchema) := wellFormed_fields (by simp [htext, htexts])
  have hnumber : WellFormed (.map (Entries.ofNames [("oneOf", .list [text, integer])])) :=
    wellFormed_oneOf (by simp [htext, integer, wellFormed_kind])
  have hrows : WellFormed (listOf [] (kind "array")) :=
    wellFormed_listOf bounds_nil (wellFormed_kind _)
  have hcards : WellFormed (listOf (some_ ++ [("maxItems", .int 6)]) (.map (fields ["icon", "label"]
      [("icon", text), ("label", text), ("color", text)]))) :=
    wellFormed_listOf bounds_cards (wellFormed_fields (by simp [htext]))
  have hauthors : WellFormed (listOf [] text) := wellFormed_listOf bounds_nil htext
  have hreferences : WellFormed (listOf [] referenceSchema) := wellFormed_listOf bounds_nil
    (wellFormed_fields (by simp [htext, hauthors, integer, wellFormed_kind]))
  have hsort := wellFormed_among [.str "citation-order", .str "author", .str "year"]
  simp only [definitions, List.mem_cons, List.not_mem_nil, or_false] at hd
  rcases hd with rfl | rfl | rfl | rfl | rfl | rfl | rfl | rfl | rfl
  · exact hlist
  · exact hlist
  · exact wellFormed_fields (by simp [htext, hnumber])
  · exact wellFormed_fields (by simp [htext])
  · exact wellFormed_fields (by simp [htext, htexts, hrows])
  · exact wellFormed_fields (by simpa [htext] using hcards)
  · exact wellFormed_fields (by simp [htext])
  · exact wellFormed_fields (by simp [htext])
  · exact wellFormed_fields (by simpa [htext, wellFormed_kind, hreferences, among] using hsort)

/-- Registering the packaged templates succeeds. -/
theorem exists_compiled : ∃ f : TemplateDefinition → Schema,
    definitions.map compiled = (definitions.map fun d => Registered.mk d (f d)).map .ok := by
  refine ⟨fun d => ((Schema.compile (.map d.schema)).toOption).getD default, ?_⟩
  rw [List.map_map]
  refine List.map_congr_left fun d hd => ?_
  obtain ⟨s, hs⟩ := (wellFormed_schema hd).exists_compile
  show ((Schema.compile (.map d.schema)).mapError LoadError.fault).map (Registered.mk d) =
    .ok ⟨d, (Schema.compile (.map d.schema)).toOption.getD default⟩
  rw [hs]
  rfl

/-- **The packaged templates** are registered under their names. -/
theorem get?_register_empty {d : TemplateDefinition} (hd : d ∈ definitions) :
    (register Registry.empty).1.get? d.name = some d := by
  obtain ⟨f, hf⟩ := exists_compiled
  have hlast : Registry.last? (definitions.map fun d => Registered.mk d (f d)) d.name =
      definitions.reverse.find? fun e => e.name == d.name := by
    rw [Registry.last?, ← List.map_reverse, List.find?_map, Option.map_map]
    exact Option.map_id'
  rw [register_eq, hf, Registry.succeeding_map_ok, Registry.get?_foldl_register, hlast]
  simp only [definitions, List.mem_cons, List.not_mem_nil, or_false] at hd
  rcases hd with rfl | rfl | rfl | rfl | rfl | rfl | rfl | rfl | rfl <;> rfl

theorem inStep_register_empty : (register Registry.empty).1.InStep := by
  rw [register_eq]
  refine Registry.InStep.empty.foldl fun t ht => ?_
  obtain ⟨d, -, hd⟩ := List.mem_map.1 (Registry.mem_of_mem_succeeding ht)
  exact Registry.packaged_compiled hd

end Packaged

end SlidePress
