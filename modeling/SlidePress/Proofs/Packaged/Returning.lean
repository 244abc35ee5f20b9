import SlidePress.Proofs.Packaged.Requests

/-! # Where packaged templates return

A packaged template that is run on content that fits returns, with one exception: a schema lets null
stand for what is left out, but a list of references written by hand goes through whatever is there,
and null cannot be gone through (`exists_run_iff`). So a bibliography fails where its references, or
the authors of one of them, are null.

Each talk comes with the condition under which it returns (`Needs`), put together from those of its
parts; where the condition is not met, the talk fails in one way. -/

namespace SlidePress.Packaged

open Template Schema

/-! ### Talks -/

variable {α β : Type} {f : Talk Requests α} {g : α → Talk Requests β} {c c' : Prop}

/-- A talk returns exactly under a condition, and fails for a value of the wrong type otherwise. -/
def Needs (f : Talk Requests α) (c : Prop) : Prop :=
  ∀ r, c ∧ (∃ p, f r = .ok p) ∨ ¬ c ∧ f r = .error .wrongType

namespace Needs

theorem of_ok (h : ∀ r, ∃ p, f r = .ok p) : Needs f True := fun r => .inl ⟨trivial, h r⟩

theorem pure (a : α) : Needs (Pure.pure a) True := of_ok fun r => ⟨(a, r), rfl⟩

theorem congr (hf : Needs f c) (h : c ↔ c') : Needs f c' := fun r => by
  rw [← h]
  exact hf r

theorem bind (hf : Needs f c) (hg : ∀ a, Needs (g a) c') : Needs (f >>= g) (c ∧ c') := fun r => by
  have hrun : (f >>= g) r = f r >>= fun p => g p.1 p.2 := rfl
  rw [hrun]
  rcases hf r with ⟨hc, p, hp⟩ | ⟨hc, he⟩
  · rw [Attempt.bind_ok hp]
    rcases hg p.1 p.2 with ⟨hc', hq⟩ | ⟨hc', he⟩
    · exact .inl ⟨⟨hc, hc'⟩, hq⟩
    · exact .inr ⟨fun h => hc' h.2, he⟩
  · rw [he]
    exact .inr ⟨fun h => hc h.1, rfl⟩

/-- In front of a talk that always returns. -/
theorem before (hf : Needs f c) (hg : ∀ a, Needs (g a) True) : Needs (f >>= g) c :=
  (hf.bind hg).congr (and_iff_left trivial)

/-- Behind a talk that always returns. -/
theorem after (hf : Needs f True) (hg : ∀ a, Needs (g a) c) : Needs (f >>= g) c :=
  (hf.bind hg).congr (and_iff_right trivial)

theorem expand (v : Value) : Needs (askExpand v) True := of_ok fun _ => ⟨_, rfl⟩

theorem cite (v : Value) : Needs (askCite v) True := of_ok fun _ => ⟨_, rfl⟩

theorem icon (i : IconRequest) : Needs (askIcon i) True := of_ok fun _ => ⟨_, rfl⟩

theorem lift {t : Attempt α} (h : ∃ a, t = .ok a) : Needs (StateT.lift t) True := by
  obtain ⟨a, rfl⟩ := h
  exact of_ok fun r => ⟨(a, r), rfl⟩

theorem given {f : Talk Requests String} {b : Bool} (hf : b = true → Needs f True) :
    Needs (Talk.given b f) True := by
  cases b
  · exact pure ""
  · exact hf rfl

/-- A value can be gone through if it has items. -/
theorem items {v : Value} (hv : v.nests = false) : Needs (Talk.items v) (∃ xs, v.items? = some xs) := by
  have hitems : Talk.items v = StateT.lift (σ := Requests) (Attempt.ofOption .wrongType v.items?) := by
    cases v with
    | again _ _ => cases hv
    | _ => rfl
  rw [hitems]
  intro r
  cases v.items? with
  | none => exact .inr ⟨fun ⟨_, h⟩ => (by cases h), rfl⟩
  | some xs => exact .inl ⟨⟨xs, rfl⟩, _, rfl⟩

theorem forEach {g : Nat → Value → Talk Requests String} {P : Value → Prop} {xs : List Value}
    (h : ∀ x ∈ xs, ∀ i, Needs (g i x) (P x)) (k : Nat) :
    Needs (Template.forEach g k xs) (∀ x ∈ xs, P x) := by
  induction xs generalizing k with
  | nil => exact (pure "").congr (by simp)
  | cons x xs ih =>
    have hx := h x List.mem_cons_self k
    have hxs := ih (fun y hy => h y (List.mem_cons_of_mem x hy)) (k + 1)
    exact (hx.bind fun a => hxs.before fun b => pure (a ++ b)).congr List.forall_mem_cons.symm

/-- A talk about each of the items of a value needs the items and what each of them needs. -/
theorem overItems {g : Nat → Value → Talk Requests String} {P : Value → Prop} {v : Value}
    (hv : v.nests = false)
    (h : ∀ xs, v.items? = some xs → ∀ x ∈ xs, ∀ i, Needs (g i x) (P x)) :
    Needs (Talk.overItems g v) (∃ xs, v.items? = some xs ∧ ∀ x ∈ xs, P x) := fun r => by
  have hrun : Talk.overItems g v r = Talk.items v r >>= fun p => Template.forEach g 0 p.1 p.2 := rfl
  rw [hrun]
  rcases items hv r with ⟨⟨xs, hxs⟩, p, hp⟩ | ⟨hnone, he⟩
  · rw [Attempt.bind_ok hp]
    obtain rfl : xs = p.1 := Option.some.inj (hxs.symm.trans (Asks.items_eq_ok hp))
    rcases forEach (h p.1 hxs) 0 p.2 with ⟨hall, hq⟩ | ⟨hall, he⟩
    · exact .inl ⟨⟨p.1, hxs, hall⟩, hq⟩
    · refine .inr ⟨fun ⟨ys, hys, hall'⟩ => hall ?_, he⟩
      rwa [Option.some.inj (hxs.symm.trans hys)]
  · rw [he]
    exact .inr ⟨fun ⟨xs, hxs, _⟩ => hnone ⟨xs, hxs⟩, rfl⟩

/-- Where a talk about an item always returns, the items of a list are all that is needed. -/
theorem overList {g : Nat → Value → Talk Requests String} {xs : List Value}
    (hxs : (Value.list xs).nests = false) (h : ∀ x ∈ xs, ∀ i, Needs (g i x) True) :
    Needs (Talk.overItems g (.list xs)) True :=
  (overItems hxs fun _ hys x hx => h x (Option.some.inj hys ▸ hx)).congr
    (iff_true_intro ⟨xs, rfl, fun _ _ => trivial⟩)

theorem joined (sep : String) {v : Value} (hv : v.nests = false) :
    Needs (Talk.joined sep v) (∃ xs, v.items? = some xs) :=
  (items hv).before fun _ => pure _

theorem joinedList (sep : String) {xs : List Value} (hxs : (Value.list xs).nests = false) :
    Needs (Talk.joined sep (.list xs)) True :=
  (joined sep hxs).congr (iff_true_intro ⟨xs, rfl⟩)

/-- A template that amounts to a talk returns exactly if the talk does. -/
theorem run {place : SlidePlace} {es : Entries} {output : String} {tree : List Stmt}
    {f : Talk Requests String} (hf : Needs f c) (hp : parse known .slide output = .ok tree)
    (h : AmountsTo (slideView place es) (Stmt.runAll env tree) f) :
    c ∧ (∃ p, Press.run place es output = .ok p) ∨
      ¬ c ∧ Press.run place es output = .error (.fault .wrongType) := by
  rw [run_of_amountsTo hp h]
  rcases hf Requests.empty with ⟨hc, p, hp⟩ | ⟨hc, he⟩
  · exact .inl ⟨hc, p, by rw [hp]; rfl⟩
  · exact .inr ⟨hc, by rw [he]; rfl⟩

end Needs

/-! ### Content that fits -/

theorem nests_part {es : Entries} (h : Value.nestsEntries es = false) (name : String) :
    (es.part name).nests = false := by
  unfold Entries.part
  cases hget : es.get? name with
  | none => rfl
  | some v =>
    obtain ⟨k, hk⟩ := Entries.mem_of_find? hget
    exact Value.nestsEntries_eq_false.1 h _ hk

/-- What is a list when it is taken out of something is one before. -/
theorem exists_list_of_outOf {whole v : Value} {depth : Nat} {ys : List Value}
    (hv : v.nests = false) (h : Value.outOf whole depth v = .list ys) : ∃ xs, v = .list xs := by
  cases v with
  | list xs => exact ⟨xs, rfl⟩
  | again _ _ => cases hv
  | _ => cases h

section

variable {es : Entries} {required : List String} {properties : List (String × Value)}
  (h : Conforms (.map (fields required properties)) (.map es))
  (hnests : Value.nestsEntries es = false)
include h hnests

/-- A field for a list is left out or null, or it is a list. -/
theorem list_of_conforms {name : String} {bounds : List (String × Value)} {d : Value}
    (hb : Bounds bounds) (hd : d ≠ .null) (hp : (name, listOf bounds d) ∈ properties) :
    es.part name = .undefined ∨ es.part name = .null ∨ ∃ xs, es.part name = .list xs := by
  refine (part_of_conforms h hp).imp_right (Or.imp_right ?_)
  rintro ⟨-, hconforms⟩
  obtain ⟨ys, hys, -⟩ := items_of_conforms_listOf hb hd hconforms
  exact exists_list_of_outOf (nests_part hnests name) hys

/-- A field for a list that is required is a list. -/
theorem list_of_required {name : String} {bounds : List (String × Value)} {d : Value}
    (hb : Bounds bounds) (hd : d ≠ .null) (hp : (name, listOf bounds d) ∈ properties)
    (hr : name ∈ required) : ∃ xs, es.part name = .list xs ∧ (Value.list xs).nests = false := by
  obtain ⟨_, hes, hfields, hrequired⟩ := conforms_fields.1 h
  cases hes
  obtain ⟨x, hx⟩ := Option.isSome_iff_exists.1 (hrequired name hr)
  obtain ⟨ys, hys, -⟩ := items_of_conforms_listOf hb hd (hfields _ hp x hx)
  obtain ⟨v, hv, rfl, -⟩ := present?_members_eq_some.1 hx
  have hpart : es.part name = v := by
    unfold Entries.part
    rw [hv]
    rfl
  have hnested := nests_part hnests name
  rw [hpart] at hnested ⊢
  obtain ⟨xs, rfl⟩ := exists_list_of_outOf hnested hys
  exact ⟨xs, rfl, hnested⟩

end

/-! ### The templates -/

section

variable {es : Entries}

theorem needs_listTalk (marker : Nat → String) {xs : List Value} (hitems : es.part "items" = .list xs)
    (hxs : (Value.list xs).nests = false) : Needs (listTalk marker es) True := by
  unfold listTalk
  rw [hitems]
  exact (Needs.overList hxs fun x _ i => (Needs.expand x).before fun _ => .pure _).before fun _ =>
    .pure _

theorem needs_tableTalk {hs rows : List Value} (hheaders : es.part "headers" = .list hs)
    (hhs : (Value.list hs).nests = false) (hrows : es.part "rows" = .list rows)
    (hrs : (Value.list rows).nests = false)
    (hrow : ∀ row ∈ rows, ∃ cells, row = .list cells ∧ (Value.list cells).nests = false) :
    Needs (tableTalk es) True := by
  unfold tableTalk
  rw [hheaders, hrows]
  refine (Needs.joinedList _ hhs).after fun _ => .after (.overList hhs fun _ _ _ => .pure _) fun _ =>
    .after (.overList hrs fun row hmem _ => ?_) fun _ =>
      .before (.given fun _ => (Needs.expand _).before fun _ => .pure _) fun _ => .pure _
  obtain ⟨cells, rfl, hcells⟩ := hrow row hmem
  exact (Needs.joinedList _ hcells).before fun _ => .pure _

theorem needs_iconGridTalk {xs : List Value} (hitems : es.part "items" = .list xs)
    (hxs : (Value.list xs).nests = false) : Needs (iconGridTalk es) True := by
  unfold iconGridTalk
  rw [hitems]
  exact (Needs.overList hxs fun _ _ _ => (Needs.icon _).before fun _ => .pure _).before fun _ =>
    .pure _

theorem needs_quoteTalk : Needs (quoteTalk es) True := by
  have hsource (v : Value) : Needs (sourceTalk v) True := by
    unfold sourceTalk
    split_ifs
    · exact .cite v
    · exact .pure _
  exact (Needs.given fun _ => (Needs.given fun _ => (hsource _).before fun _ => .pure _).before
    fun _ => .pure _).before fun _ => .pure _

theorem needs_twoColumnTalk : Needs (twoColumnTalk es) True :=
  (Needs.expand _).after fun _ => (Needs.expand _).before fun _ => .pure _

end

/-! ### References -/

/-- A value that is left out, null or a list. -/
def MaybeList (v : Value) : Prop := v = .undefined ∨ v = .null ∨ ∃ xs, v = .list xs

/-- Content whose references can be gone through. -/
def Listed (es : Entries) : Prop :=
  if (es.part "_generatedEntries").truthy then ∃ xs, (es.part "_generatedEntries").items? = some xs
  else es.part "references" ≠ .null ∧ ∀ xs, es.part "references" = .list xs →
    ∀ ref : Entries, .map ref ∈ xs → ref.part "authors" ≠ .null

/-- A value that can stand in a form. -/
def Printable (v : Value) : Prop :=
  v = .undefined ∨ v = .null ∨ (∃ n, v = .int n) ∨ (∃ x, v = .float x) ∨ ∃ s, v.text? = some s

theorem MaybeList.items_iff {v : Value} (h : MaybeList v) : (∃ xs, v.items? = some xs) ↔ v ≠ .null := by
  rcases h with rfl | rfl | ⟨xs, rfl⟩
  · exact iff_of_true ⟨[], rfl⟩ (by simp)
  · exact iff_of_false (fun ⟨_, h⟩ => by cases h) fun h => h rfl
  · exact iff_of_true ⟨xs, rfl⟩ (by simp)

section

variable {whole v : Value} {depth : Nat} (hv : v.nests = false)
include hv

theorem MaybeList.of_outOf (h : MaybeList (Value.outOf whole depth v)) : MaybeList v := by
  cases v with
  | again _ _ => cases hv
  | list xs => exact .inr (.inr ⟨xs, rfl⟩)
  | tuple _ | map _ => simp [MaybeList, Value.outOf] at h
  | _ => exact h

theorem Printable.of_outOf (h : Printable (Value.outOf whole depth v)) : Printable v := by
  cases v with
  | again _ _ => cases hv
  | list _ | tuple _ | map _ => simp [Printable, Value.outOf, Value.text?] at h
  | _ => exact h

end

theorem part_outOfEntries (whole : Value) (depth : Nat) (es : Entries) (name : String) :
    Entries.part (Value.outOfEntries whole depth es) name = Value.outOf whole depth (es.part name) := by
  unfold Entries.part
  rw [Entries.get?_outOfEntries]
  cases es.get? name <;> rfl

mutual

/-- What is taken out of something is not nested in itself if it was not before. -/
theorem nests_outOf (whole : Value) (depth : Nat) :
    ∀ {v : Value}, v.nests = false → (Value.outOf whole depth v).nests = false
  | .list _, h => nestsAny_outOfList whole (depth + 1) h
  | .map _, h => nestsEntries_outOfEntries whole (depth + 1) h
  | .again _ _, h => by cases h
  | .tuple _, _ => rfl
  | .null, h | .bool _, h | .int _, h | .float _, h | .str _, h | .markup _, h | .bytes _, h
  | .date _, h | .timestamp _, h | .set _, h | .range _ _ _, h | .undefined, h | .method _ _, h
  | .ref _, h => h

theorem nestsAny_outOfList (whole : Value) (depth : Nat) :
    ∀ {xs : List Value}, Value.nestsAny xs = false →
      Value.nestsAny (Value.outOfList whole depth xs) = false
  | [], _ => rfl
  | x :: xs, h => by
    obtain ⟨hx, hxs⟩ := Bool.or_eq_false_iff.1 h
    exact Bool.or_eq_false_iff.2 ⟨nests_outOf whole depth hx, nestsAny_outOfList whole depth hxs⟩

theorem nestsEntries_outOfEntries (whole : Value) (depth : Nat) :
    ∀ {es : List (Value × Value)}, Value.nestsEntries es = false →
      Value.nestsEntries (Value.outOfEntries whole depth es) = false
  | [], _ => rfl
  | (k, v) :: es, h => by
    obtain ⟨hv, hes⟩ := Bool.or_eq_false_iff.1 h
    exact Bool.or_eq_false_iff.2
      ⟨nests_outOf whole depth hv, nestsEntries_outOfEntries whole depth hes⟩

end

/-- A reference whose parts can be printed. -/
structure Citable (ref : Entries) : Prop where
  nests : Value.nestsEntries ref = false
  authors : MaybeList (ref.part "authors")
  year : Printable (ref.part "year")
  journal : Printable (ref.part "journal")

theorem Citable.of_outOfEntries {whole : Value} {depth : Nat} {ref : Entries}
    (hnests : Value.nestsEntries ref = false) (h : Citable (Value.outOfEntries whole depth ref)) :
    Citable ref where
  nests := hnests
  authors := .of_outOf (nests_part hnests _) (part_outOfEntries whole depth ref _ ▸ h.authors)
  year := .of_outOf (nests_part hnests _) (part_outOfEntries whole depth ref _ ▸ h.year)
  journal := .of_outOf (nests_part hnests _) (part_outOfEntries whole depth ref _ ▸ h.journal)

theorem printable_of_conforms {es : Entries} {required : List String}
    {properties : List (String × Value)} (h : Conforms (.map (fields required properties)) (.map es))
    (hnests : Value.nestsEntries es = false) {p : String × Value} (hp : p ∈ properties)
    (hform : ∀ v, Conforms (orNothing p.2) v → Printable v) : Printable (es.part p.1) := by
  rcases part_of_conforms h hp with hpart | hpart | ⟨-, hconforms⟩
  · exact .inl hpart
  · exact .inr (.inl hpart)
  · exact .of_outOf (nests_part hnests _) (hform _ hconforms)

/-- A reference that fits can be printed, but for its authors. -/
theorem citable_of_conforms {ref : Entries} (hnests : Value.nestsEntries ref = false)
    (h : Conforms referenceSchema (.map ref)) : Citable ref where
  nests := hnests
  authors := list_of_conforms (d := text) h hnests bounds_nil (by simp [text, kind])
    (by simp : ("authors", listOf [] text) ∈ _)
  year := printable_of_conforms h hnests (p := ("year", integer)) (by simp) fun v hv => by
    obtain ⟨n, rfl | ⟨x, rfl, -⟩⟩ := conforms_integer.1 hv
    · exact .inr (.inr (.inl ⟨n, rfl⟩))
    · exact .inr (.inr (.inr (.inl ⟨x, rfl⟩)))
  journal := printable_of_conforms h hnests (p := ("journal", text)) (by simp) fun v hv =>
    .inr (.inr (.inr (.inr (conforms_text.1 hv))))

theorem needs_partTalk {form : String} (hform : form = " (%s)" ∨ form = ". *%s*") {v : Value}
    (hv : Printable v) : Needs (partTalk form v) True := by
  refine .given fun ht => .lift ?_
  rcases hv with rfl | rfl | ⟨n, rfl⟩ | ⟨x, rfl⟩ | ⟨s, hs⟩
  · cases ht
  · cases ht
  · rcases hform with rfl | rfl <;> exact ⟨_, rfl⟩
  · rcases hform with rfl | rfl <;> exact ⟨_, rfl⟩
  · cases v with
    | str _ | markup _ => rcases hform with rfl | rfl <;> exact ⟨_, rfl⟩
    | _ => cases hs

theorem Citable.needs_referenceTalk {ref : Entries} (h : Citable ref) :
    Needs (referenceTalk (.map ref)) (ref.part "authors" ≠ .null) := by
  have hauthors := (Needs.joined ", " (nests_part h.nests "authors")).congr h.authors.items_iff
  exact hauthors.before fun _ => (needs_partTalk (.inl rfl) h.year).after fun _ =>
    (needs_partTalk (.inr rfl) h.journal).before fun _ => .pure _

theorem mem_references : ("references", listOf [] referenceSchema) ∈ [("title", text),
    ("autoGenerate", kind "boolean"), ("sort", .map (Entries.ofNames [("type", .str "string"),
      ("enum", .list [.str "citation-order", .str "author", .str "year"])])),
    ("references", listOf [] referenceSchema)] := by
  simp

section

variable {es : Entries} (hnests : Value.nestsEntries es = false)
  (h : Conforms (.map bibliography.schema) (.map es))
include hnests h

/-- The references of content that fits can be printed, but for their authors. -/
theorem citable_of_mem {xs : List Value} (hxs : (es.part "references").items? = some xs)
    {x : Value} (hx : x ∈ xs) : ∃ ref, x = .map ref ∧ Citable ref := by
  obtain ⟨ref, rfl⟩ := map_of_conforms h bounds_nil mem_references hnests hxs hx
  obtain ⟨-, hnested, ys, hconforms⟩ :=
    item_of_conforms (d := referenceSchema) h bounds_nil (by simp [referenceSchema])
      mem_references hnests hxs hx
  -- what conforms is the reference as it is taken out of the list and of the content around it
  have hinner := nestsEntries_outOfEntries (.map es) 2 hnested
  have hcitable := citable_of_conforms (nestsEntries_outOfEntries (.list ys) 1 hinner) hconforms
  exact ⟨ref, rfl, .of_outOfEntries hnested (.of_outOfEntries hinner hcitable)⟩

/-- **A bibliography** returns exactly if its references can be gone through. -/
theorem needs_bibliographyTalk : Needs (bibliographyTalk es) (Listed es) := by
  unfold bibliographyTalk Listed
  split_ifs with ht
  · refine Needs.before ((Needs.overItems (P := fun _ => True) (nests_part hnests _)
      fun _ _ _ _ _ => .pure _).congr ?_) fun _ => .pure _
    simp
  · have hlist : MaybeList (es.part "references") :=
      list_of_conforms (d := referenceSchema) h hnests bounds_nil (by simp [referenceSchema])
        mem_references
    refine Needs.before ((Needs.overItems (P := fun x => ∀ ref : Entries, x = .map ref →
      ref.part "authors" ≠ .null) (nests_part hnests _) fun xs hxs x hx _ => ?_).congr ?_)
        fun _ => .pure _
    · obtain ⟨ref, rfl, href⟩ := citable_of_mem hnests h hxs hx
      exact href.needs_referenceTalk.congr (by simp)
    · rcases hlist with hp | hp | ⟨xs, hp⟩ <;> rw [hp] <;> simp [Value.items?]
      exact ⟨fun hall ref href => hall _ href ref rfl, fun hall x hx ref hx' => hall ref (hx' ▸ hx)⟩

end

/-! ### All templates -/

theorem exists_list_of_conforms_kind {v : Value} (h : Conforms (kind "array") v) :
    ∃ xs, v = .list xs := by
  obtain ⟨xs, hxs, -⟩ := (conforms_array_iff (fun _ h => by cases h.1) rfl).1 h
  exact ⟨xs, hxs⟩

/-- The rows of a table that fits are lists. -/
theorem row_of_conforms {es : Entries} (h : Conforms (.map table.schema) (.map es))
    (hnests : Value.nestsEntries es = false) {rows : List Value} (hrows : es.part "rows" = .list rows)
    {row : Value} (hrow : row ∈ rows) : ∃ cells, row = .list cells ∧ (Value.list cells).nests = false := by
  obtain ⟨-, hnested, ys, hconforms⟩ := item_of_conforms (d := kind "array") h bounds_nil
    (by simp [kind]) (by simp : ("rows", listOf [] (kind "array")) ∈ _) hnests
    (by rw [hrows]; rfl) hrow
  obtain ⟨zs, hzs⟩ := exists_list_of_conforms_kind hconforms
  have hinner := nests_outOf (.map es) 1 hnested
  obtain ⟨ws, hws⟩ := exists_list_of_outOf hinner hzs
  obtain ⟨cells, rfl⟩ := exists_list_of_outOf hnested hws
  exact ⟨cells, rfl, hnested⟩

/-- What a packaged template needs of content that fits. -/
theorem needs_of_conforms {t : TemplateDefinition} (ht : t ∈ definitions) {es : Entries}
    (hes : (Value.map es).isData = true) (hnests : Value.nestsEntries es = false)
    (h : Conforms (.map t.schema) (.map es)) (place : SlidePlace) :
    ∃ tree f, parse known .slide t.output = .ok tree ∧
      AmountsTo (slideView place es) (Stmt.runAll env tree) f ∧
      Needs f (t = bibliography → Listed es) := by
  have hother {t' : TemplateDefinition} {f : Talk Requests String}
      (hname : t'.name ≠ bibliography.name) (hf : Needs f True) :
      Needs f (t' = bibliography → Listed es) :=
    hf.congr (iff_of_true trivial fun h => absurd (congrArg _ h) hname)
  simp only [definitions, List.mem_cons, List.not_mem_nil, or_false] at ht
  rcases ht with rfl | rfl | rfl | rfl | rfl | rfl | rfl | rfl | rfl
  · obtain ⟨xs, hitems, hxs⟩ := list_of_required (d := text) h hnests bounds_some
      (by simp [text, kind]) (by simp : ("items", listOf some_ text) ∈ _) (by simp)
    exact ⟨_, _, parse_eq_ok (by simp [trees]), bulletList_amounts hes,
      hother (by decide) (needs_listTalk _ hitems hxs)⟩
  · obtain ⟨xs, hitems, hxs⟩ := list_of_required (d := text) h hnests bounds_some
      (by simp [text, kind]) (by simp : ("items", listOf some_ text) ∈ _) (by simp)
    exact ⟨_, _, parse_eq_ok (by simp [trees]), numberedList_amounts hes,
      hother (by decide) (needs_listTalk _ hitems hxs)⟩
  · exact ⟨_, _, parse_eq_ok (by simp [trees]), section_amounts hes, hother (by decide) (.pure _)⟩
  · exact ⟨_, _, parse_eq_ok (by simp [trees]), titleSlide_amounts hes,
      hother (by decide) (.pure _)⟩
  · obtain ⟨hs, hheaders, hhs⟩ := list_of_required (d := text) h hnests bounds_some
      (by simp [text, kind]) (by simp : ("headers", listOf some_ text) ∈ _) (by simp)
    obtain ⟨rows, hrows, hrs⟩ := list_of_required (d := kind "array") h hnests bounds_nil
      (by simp [kind]) (by simp : ("rows", listOf [] (kind "array")) ∈ _) (by simp)
    exact ⟨_, _, parse_eq_ok (by simp [trees]), table_amounts hes, hother (by decide)
      (needs_tableTalk hheaders hhs hrows hrs fun _ => row_of_conforms h hnests hrows)⟩
  · obtain ⟨xs, hitems, hxs⟩ := list_of_required h hnests bounds_cards (by simp)
      (List.mem_cons_of_mem _ List.mem_cons_self) (by simp)
    have hcards : ∀ xs, (es.part "items").items? = some xs → ∀ x ∈ xs, ∃ card, x = .map card :=
      fun ys hys x hx => map_of_conforms h bounds_cards
        (List.mem_cons_of_mem _ List.mem_cons_self) hnests hys hx
    exact ⟨_, _, parse_eq_ok (by simp [trees]), iconGrid_amounts hes hcards,
      hother (by decide) (needs_iconGridTalk hitems hxs)⟩
  · have hsource (htruthy : (es.part "source").truthy = true) : ∃ s, es.part "source" = .str s := by
      rcases str_of_conforms h hes (by simp : ("source", text) ∈ _) with hp | hp | ⟨s, -, hp, -⟩
      · simp [hp, Value.truthy] at htruthy
      · simp [hp, Value.truthy] at htruthy
      · exact ⟨s, hp⟩
    exact ⟨_, _, parse_eq_ok (by simp [trees]), quote_amounts hes hsource,
      hother (by decide) needs_quoteTalk⟩
  · exact ⟨_, _, parse_eq_ok (by simp [trees]), twoColumn_amounts hes,
      hother (by decide) needs_twoColumnTalk⟩
  · exact ⟨_, _, parse_eq_ok (by simp [trees]),
      bibliography_amounts (listable_of_conforms hes hnests h),
      (needs_bibliographyTalk hnests h).congr (by simp)⟩

/-- **Packaged templates return** on all content that their schemas admit, wherever the slide stands,
but for bibliographies: these return exactly if there are references to go through, and authors in
each reference written by hand. Otherwise the run fails, for a value of the wrong type. -/
theorem exists_run_iff {t : TemplateDefinition} (ht : t ∈ definitions) {es : Entries}
    (hes : (Value.map es).isData = true) (hnests : Value.nestsEntries es = false)
    (hfits : ∃ verdict, Schema.validate (.map t.schema) (.map es) = .ok verdict ∧
      verdict.valid = true) (place : SlidePlace) :
    ((∃ p, Press.run place es t.output = .ok p) ↔ (t = bibliography → Listed es)) ∧
      ∀ e, Press.run place es t.output = .error e → e = .fault .wrongType := by
  obtain ⟨verdict, hverdict, hvalid⟩ := hfits
  obtain ⟨verdict', hverdict', hiff⟩ := (wellFormed_schema ht).exists_validate (.map es)
  obtain rfl : verdict = verdict' := Except.ok.inj (hverdict.symm.trans hverdict')
  obtain ⟨tree, f, hparse, hamounts, hneeds⟩ := needs_of_conforms ht hes hnests (hiff.1 hvalid) place
  rcases hneeds.run hparse hamounts with ⟨hc, p, hp⟩ | ⟨hc, he⟩
  · exact ⟨iff_of_true ⟨p, hp⟩ hc, fun e he => by rw [hp] at he; cases he⟩
  · refine ⟨iff_of_false (fun ⟨p, hp⟩ => ?_) hc, fun e he' => ?_⟩
    · rw [hp] at he
      cases he
    · exact Except.error.inj (he'.symm.trans he)

/-- The only slide of a deck. -/
def alone : SlidePlace := ⟨⟨"T", none, none, defaultTheme, none⟩, 0, 1⟩

/-- A list of one reference with the given authors. -/
def reading (authors : Value) : Entries := Entries.ofNames [("references",
  .list [.map (Entries.ofNames [("id", .str "doe"), ("authors", authors), ("year", .int 2020)])])]

theorem exists_verdict (t : TemplateDefinition) (es : Entries)
    (h : ((Schema.validate (.map t.schema) (.map es)).toOption.map Verdict.valid) = some true) :
    ∃ verdict, Schema.validate (.map t.schema) (.map es) = .ok verdict ∧ verdict.valid = true := by
  obtain ⟨verdict, hverdict, hvalid⟩ := Option.map_eq_some_iff.1 h
  exact ⟨verdict, Attempt.eq_ok_of_toOption hverdict, hvalid⟩

/-- A reference with a list of authors is printed; one whose authors are null fits as well, but the
template fails on it. -/
theorem exists_run_iff_reading :
    (∃ p, Press.run alone (reading (.list [.str "Doe, J."])) bibliography.output = .ok p) ∧
      (∃ verdict, Schema.validate (.map bibliography.schema) (.map (reading .null)) = .ok verdict ∧
        verdict.valid = true) ∧
      Press.run alone (reading .null) bibliography.output = .error (.fault .wrongType) := by
  have hmem : bibliography ∈ definitions := by simp [definitions]
  have hfits := exists_verdict bibliography (reading (.list [.str "Doe, J."])) (by decide +kernel)
  have hnull := exists_verdict bibliography (reading .null) (by decide +kernel)
  obtain ⟨hiff, -⟩ := exists_run_iff hmem (by decide) (by decide) hfits alone
  obtain ⟨hiff', hfails⟩ := exists_run_iff hmem (by decide) (by decide) hnull alone
  refine ⟨hiff.2 fun _ => ⟨fun hreferences => ?_, fun xs hxs ref href hauthors => ?_⟩, hnull, ?_⟩
  · cases hreferences
  · cases hxs
    cases List.mem_singleton.1 href
    cases hauthors
  · rcases hrun : Press.run alone (reading .null) bibliography.output with e | p
    · rw [hfails e hrun]
    · exact absurd rfl ((hiff'.1 ⟨p, hrun⟩ rfl).2 _ rfl _ (List.mem_singleton_self _))

end SlidePress.Packaged
