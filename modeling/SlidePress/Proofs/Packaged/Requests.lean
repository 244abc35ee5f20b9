import SlidePress.Proofs.Citation.Collected
import SlidePress.Proofs.Packaged.Drafts

/-! # What the packaged templates ask for

Running a packaged template asks for texts to be expanded and for citations, in the order of the
template (`Asks`). On content that fits, every text that is expanded stands in the content, so what
it cites is collected (`requests_of_run`). Citations are asked for by quotes alone, and exactly for
their sources that begin with an at sign. -/

namespace SlidePress.Packaged

open Template Schema

/-! ### Asking -/

variable {α β : Type} {f : Talk Requests α} {g : α → Talk Requests β} {cs cs' ts ts' : List String}

/-- A talk that comes to an end has asked for these citations and texts. -/
def Asks (f : Talk Requests α) (cs ts : List String) : Prop :=
  ∀ r p, f r = .ok p → p.2.cites = r.cites ++ cs ∧ p.2.expands = r.expands ++ ts

namespace Asks

theorem pure (a : α) : Asks (Pure.pure a) [] [] := fun r p h => by
  cases h
  exact ⟨(List.append_nil _).symm, (List.append_nil _).symm⟩

theorem lift (t : Attempt α) : Asks (StateT.lift t) [] [] := fun r p h => by
  obtain ⟨a, -, h⟩ := Attempt.bind_eq_ok.1 h
  exact pure a r p h

theorem bind (hf : Asks f cs ts) (hg : ∀ a, Asks (g a) cs' ts') :
    Asks (f >>= g) (cs ++ cs') (ts ++ ts') := fun r p h => by
  obtain ⟨q, hq, hp⟩ := Attempt.bind_eq_ok.1 h
  obtain ⟨hcites, hexpands⟩ := hf r q hq
  obtain ⟨hcites', hexpands'⟩ := hg q.1 q.2 p hp
  rw [hcites', hexpands', hcites, hexpands, List.append_assoc, List.append_assoc]
  exact ⟨rfl, rfl⟩

/-- In front of a talk that asks for nothing. -/
theorem before (hf : Asks f cs ts) (hg : ∀ a, Asks (g a) [] []) : Asks (f >>= g) cs ts := by
  simpa using hf.bind hg

/-- Behind a talk that asks for nothing. -/
theorem after (hf : Asks f [] []) (hg : ∀ a, Asks (g a) cs ts) : Asks (f >>= g) cs ts :=
  hf.bind hg

theorem expand (v : Value) : Asks (askExpand v) [] [Requests.textToExpand v] := fun r p h => by
  cases h
  exact ⟨(List.append_nil _).symm, rfl⟩

theorem cite (v : Value) : Asks (askCite v) [v.text] [] := fun r p h => by
  cases h
  exact ⟨rfl, (List.append_nil _).symm⟩

theorem icon (i : IconRequest) : Asks (askIcon i) [] [] := fun r p h => by
  cases h
  exact ⟨(List.append_nil _).symm, (List.append_nil _).symm⟩

theorem given {f : Talk Requests String} (b : Bool) (hf : Asks f cs ts) :
    Asks (Talk.given b f) (if b then cs else []) (if b then ts else []) := by
  cases b
  · exact pure ""
  · exact hf

theorem items (v : Value) : Asks (Talk.items v) [] [] := by
  unfold Talk.items
  split <;> exact lift _

theorem forEach {g : Nat → Value → Talk Requests String} {expands : Value → List String}
    (h : ∀ i x, Asks (g i x) [] (expands x)) (k : Nat) (xs : List Value) :
    Asks (Template.forEach g k xs) [] (xs.flatMap expands) := by
  induction xs generalizing k with
  | nil => exact pure ""
  | cons x xs ih => exact (h k x).bind fun a => (ih (k + 1)).before fun b => pure (a ++ b)

theorem items_eq_ok {v : Value} {r : Requests} {p : List Value × Requests}
    (h : Talk.items v r = .ok p) : v.items? = some p.1 := by
  cases v with
  | again _ _ | null | bool _ | int _ | float _ | date _ | timestamp _ | method _ _ | ref _ => cases h
  | _ =>
    cases h
    rfl

/-- For each item some texts are asked for. -/
theorem overItems {g : Nat → Value → Talk Requests String} {expands : Value → List String}
    (h : ∀ i x, Asks (g i x) [] (expands x)) (v : Value) :
    Asks (Talk.overItems g v) [] ((v.items?.getD []).flatMap expands) := fun r p hp => by
  obtain ⟨q, hq, hp⟩ := Attempt.bind_eq_ok.1 hp
  obtain ⟨hcites, hexpands⟩ := items v r q hq
  rw [items_eq_ok hq, Option.getD_some, ← List.append_nil r.expands, ← List.append_nil r.cites,
    ← hcites, ← hexpands]
  exact forEach h 0 q.1 q.2 p hp

theorem overItems_nothing {g : Nat → Value → Talk Requests String} (h : ∀ i x, Asks (g i x) [] [])
    (v : Value) : Asks (Talk.overItems g v) [] [] := by
  have hnil (xs : List Value) : xs.flatMap (fun _ => ([] : List String)) = [] :=
    List.flatMap_eq_nil_iff.2 fun _ _ => rfl
  have hall := overItems h v
  rwa [hnil] at hall

theorem joined (sep : String) (v : Value) : Asks (Talk.joined sep v) [] [] :=
  (items v).before fun _ => pure _

end Asks

/-! ### The templates -/

section

variable (es : Entries)

theorem asks_listTalk (marker : Nat → String) : Asks (listTalk marker es) []
    (((es.part "items").items?.getD []).flatMap fun x => [Requests.textToExpand x]) := by
  have hitems := Asks.overItems (fun i x => (Asks.expand x).before fun s =>
    .pure (marker i ++ s ++ "\n")) (es.part "items")
  exact hitems.before fun _ => .pure _

theorem asks_tableTalk : Asks (tableTalk es) []
    (if (es.part "caption").truthy then [Requests.textToExpand (es.part "caption")] else []) := by
  have hcaption := Asks.given (es.part "caption").truthy
    ((Asks.expand (es.part "caption")).before fun s => .pure ("\n*" ++ s ++ "*\n"))
  rw [ite_self] at hcaption
  exact .after (.joined _ _) fun _ => .after (.overItems_nothing (fun _ _ => .pure _) _) fun _ =>
    .after (.overItems_nothing (fun _ _ => (Asks.joined _ _).before fun _ => .pure _) _) fun _ =>
      hcaption.before fun _ => .pure _

theorem asks_twoColumnTalk : Asks (twoColumnTalk es) []
    [Requests.textToExpand (es.part "left"), Requests.textToExpand (es.part "right")] :=
  (Asks.expand _).bind fun _ => (Asks.expand _).before fun _ => .pure _

theorem asks_sourceTalk (v : Value) : Asks (sourceTalk v)
    (if Text.startsWith ['@'] v.text.toList then [v.text] else []) [] := by
  unfold sourceTalk
  split_ifs
  · exact .cite v
  · exact .pure _

/-- The sources that a quote cites. -/
def quotedSources (es : Entries) : List String :=
  if (es.part "author").truthy then
    if (es.part "source").truthy then
      if Text.startsWith ['@'] (es.part "source").text.toList then [(es.part "source").text] else []
    else []
  else []

theorem asks_quoteTalk : Asks (quoteTalk es) (quotedSources es) [] := by
  have hsource := Asks.given (es.part "source").truthy
    ((asks_sourceTalk (es.part "source")).before fun s => .pure (", " ++ s))
  have hcredit := Asks.given (es.part "author").truthy
    (hsource.before fun s => .pure (">\n> — " ++ (es.part "author").printed ++ s))
  rw [ite_self, ite_self] at hcredit
  exact hcredit.before fun _ => .pure _

theorem asks_iconGridTalk : Asks (iconGridTalk es) [] [] :=
  (Asks.overItems_nothing (fun _ _ => (Asks.icon _).before fun _ => .pure _) _).before fun _ => .pure _

theorem asks_partTalk (form : String) (v : Value) : Asks (partTalk form v) [] [] := by
  have h := Asks.given v.truthy (Asks.lift (Value.percent form v))
  rwa [ite_self] at h

theorem asks_referenceTalk (v : Value) : Asks (referenceTalk v) [] [] :=
  (Asks.joined _ _).before fun _ => (asks_partTalk _ _).before fun _ => (asks_partTalk _ _).before fun _ =>
    .pure _

theorem asks_bibliographyTalk : Asks (bibliographyTalk es) [] [] := by
  unfold bibliographyTalk
  split_ifs
  · exact (Asks.overItems_nothing (fun _ _ => .pure _) _).before fun _ => .pure _
  · exact (Asks.overItems_nothing (fun _ _ => asks_referenceTalk _) _).before fun _ => .pure _

end

/-- A template that amounts to a talk leaves the requests that the talk asks for. -/
theorem requests_of_amountsTo {place : SlidePlace} {es : Entries} {output draft : String}
    {tree : List Stmt} {r : Requests} {f : Talk Requests String}
    (hp : parse known .slide output = .ok tree)
    (h : AmountsTo (slideView place es) (Stmt.runAll env tree) f) (hf : Asks f cs ts)
    (hrun : Press.run place es output = .ok (draft, r)) : r.cites = cs ∧ r.expands = ts := by
  rw [run_of_amountsTo hp h] at hrun
  cases hr : f Requests.empty with
  | error e =>
    rw [hr] at hrun
    cases hrun
  | ok p =>
    rw [hr] at hrun
    cases hrun
    exact hf _ _ hr

/-! ### Content that fits -/

section

variable {es : Entries} {required : List String} {properties : List (String × Value)}
  (h : Conforms (.map (fields required properties)) (.map es))
include h

/-- A field of content that fits is left out or null, or it fits. -/
theorem part_of_conforms {p : String × Value} (hp : p ∈ properties) :
    es.part p.1 = .undefined ∨ es.part p.1 = .null ∨ es.get? p.1 = some (es.part p.1) ∧
      Conforms (orNothing p.2) (Value.outOf (.map es) 0 (es.part p.1)) := by
  obtain ⟨_, hes, hfields, -⟩ := conforms_fields.1 h
  cases hes
  unfold Entries.part
  cases hget : es.get? p.1 with
  | none => exact .inl rfl
  | some v =>
    by_cases hnull : Value.outOf (.map es) 0 v = .null
    · exact .inr (.inl (Value.eq_null_of_outOf (by simp) hnull))
    · exact .inr (.inr ⟨rfl, hfields p hp _ (present?_members_eq_some.2 ⟨v, hget, rfl, hnull⟩)⟩)

/-- The items of a field that is a list of what conforms to a schema. -/
theorem item_of_conforms {name : String} {bounds : List (String × Value)} {d : Value}
    (hb : Bounds bounds) (hd : d ≠ .null) (hp : (name, listOf bounds d) ∈ properties)
    (hnests : Value.nestsEntries es = false) {xs : List Value}
    (hxs : (es.part name).items? = some xs) {x : Value} (hx : x ∈ xs) :
    (∃ k, (k, .list xs) ∈ es) ∧ x.nests = false ∧
      ∃ ys, Conforms d (Value.outOf (.list ys) 0 (Value.outOf (.map es) 1 x)) := by
  rcases part_of_conforms h hp with hpart | hpart | ⟨hget, hconforms⟩
  · rw [hpart] at hxs
    cases hxs
    cases hx
  · rw [hpart] at hxs
    cases hxs
  obtain ⟨k, hk⟩ := Entries.mem_of_find? hget
  have hpart := Value.nestsEntries_eq_false.1 hnests _ hk
  dsimp only at hget hconforms hpart
  obtain ⟨ys, hys, hitems⟩ := items_of_conforms_listOf hb hd hconforms
  cases hv : es.part name with
  | list zs =>
    rw [hv] at hys hxs hpart hk
    cases hys
    cases hxs
    refine ⟨⟨k, hk⟩, Value.nestsAny_eq_false.1 hpart x hx, Value.outOfList (.map es) 1 xs,
      hitems (Value.outOf _ 0 (Value.outOf (.map es) 1 x)) ?_⟩
    rw [Value.members, Value.outOfList_eq_map, Value.outOfList_eq_map]
    exact List.mem_map_of_mem (List.mem_map_of_mem hx)
  | again up isMap =>
    rw [hv] at hpart
    cases hpart
  | _ =>
    rw [hv] at hys
    cases hys

/-- The items of a field that is a list of mappings. -/
theorem map_of_conforms {name : String} {bounds : List (String × Value)}
    {required' : List String} {properties' : List (String × Value)} (hb : Bounds bounds)
    (hp : (name, listOf bounds (.map (fields required' properties'))) ∈ properties)
    (hnests : Value.nestsEntries es = false) {xs : List Value}
    (hxs : (es.part name).items? = some xs) {x : Value} (hx : x ∈ xs) : ∃ fs, x = .map fs := by
  obtain ⟨-, hnested, ys, hconforms⟩ := item_of_conforms h hb (by simp) hp hnests hxs hx
  obtain ⟨fs, hfs, -⟩ := conforms_fields.1 hconforms
  cases x with
  | map fs => exact ⟨fs, rfl⟩
  | again _ _ => cases hnested
  | _ => cases hfs

section

variable (hes : (Value.map es).isData = true)
include hes

/-- A field for a text that is neither left out nor null is a text. -/
theorem str_of_conforms {name : String} (hp : (name, text) ∈ properties) :
    es.part name = .undefined ∨ es.part name = .null ∨
      ∃ s k, es.part name = .str s ∧ (k, .str s) ∈ es := by
  refine (part_of_conforms h hp).imp_right (Or.imp_right ?_)
  rintro ⟨hget, hconforms⟩
  obtain ⟨s, hs⟩ := conforms_text.1 hconforms
  rw [Value.text?_outOf rfl] at hs
  obtain ⟨k, hk⟩ := Entries.mem_of_find? hget
  have hstr := Value.eq_str_of_text? (Value.entriesData_iff.1 hes _ hk).2 hs
  exact ⟨s, k, hstr, hstr ▸ hk⟩

/-- What a field for a text cites where it is expanded is collected. -/
theorem collected_of_part {name : String} (hp : (name, text) ∈ properties) :
    Citation.inText (Requests.textToExpand (es.part name)) ⊆ Citation.inEntries es := by
  rcases str_of_conforms h hes hp with hpart | hpart | ⟨s, k, hpart, hk⟩
  · rw [hpart]
    exact List.nil_subset _
  · rw [hpart]
    exact List.nil_subset _
  · rw [hpart]
    exact List.Subset.trans (Citation.inText_subset_inField s)
      (Citation.inField_subset_inEntries hk)

/-- What an item of a field for texts cites where it is expanded is collected. -/
theorem collected_of_item {name : String} {bounds : List (String × Value)} (hb : Bounds bounds)
    (hp : (name, listOf bounds text) ∈ properties) (hnests : Value.nestsEntries es = false)
    {x : Value} (hx : x ∈ (es.part name).items?.getD []) :
    Citation.inText (Requests.textToExpand x) ⊆ Citation.inEntries es := by
  cases hxs : (es.part name).items? with
  | none =>
    rw [hxs] at hx
    cases hx
  | some xs =>
    rw [hxs] at hx
    obtain ⟨⟨k, hk⟩, -, ys, hconforms⟩ :=
      item_of_conforms h hb (by simp [text, kind]) hp hnests hxs hx
    obtain ⟨s, hs⟩ := conforms_text.1 hconforms
    rw [Value.text?_outOf rfl, Value.text?_outOf rfl] at hs
    have hdata : Value.allData xs = true := (Value.entriesData_iff.1 hes _ hk).2
    obtain rfl := Value.eq_str_of_text? (Value.allData_iff.1 hdata x hx) hs
    exact List.Subset.trans (Citation.inText_subset_inField s)
      (Citation.inField_subset_inEntries_of_mem hk hx)

end

end

/-- A list of references can be made of content that fits. -/
theorem listable_of_conforms {es : Entries} (hes : (Value.map es).isData = true)
    (hnests : Value.nestsEntries es = false)
    (h : Conforms (.map bibliography.schema) (.map es)) : Listable es where
  title := Entries.direct_part hes "title"
  entries := Entries.direct_part hes "_generatedEntries"
  entry xs hxs x hx := Value.direct_of_isData (Entries.isData_of_mem_items_part hes hxs hx)
  references := Entries.direct_part hes "references"
  reference _ xs hxs x hx := by
    obtain ⟨ref, rfl⟩ := map_of_conforms h bounds_nil
      (List.mem_cons_of_mem _ (List.mem_cons_of_mem _ (List.mem_cons_of_mem _ List.mem_cons_self)))
      hnests hxs hx
    exact ⟨ref, rfl, Entries.direct_part (Entries.isData_of_mem_items_part hes hxs hx)⟩

/-! ### The requests of a slide -/

/-- The content of a quote has it cite this source. -/
structure Cites (es : Entries) (s : String) : Prop where
  author : (es.part "author").truthy = true
  source : es.part "source" = .str s
  marked : Text.startsWith ['@'] s.toList = true

theorem truthy_of_startsWith {s : String} (h : Text.startsWith ['@'] s.toList = true) :
    (Value.str s).truthy = true := by
  have hs : s ≠ "" := by
    rintro rfl
    cases h
  simpa [Value.truthy] using hs

theorem mem_quotedSources {es : Entries}
    (hsource : (es.part "source").truthy = true → ∃ s, es.part "source" = .str s) {source : String} :
    source ∈ quotedSources es ↔ Cites es source := by
  unfold quotedSources
  constructor
  · intro h
    split_ifs at h with hauthor htruthy hmarked
    · obtain ⟨s, hs⟩ := hsource htruthy
      obtain rfl := List.mem_singleton.1 h
      exact ⟨hauthor, hs ▸ rfl, hmarked⟩
    all_goals cases h
  · rintro ⟨hauthor, hs, hmarked⟩
    have htruthy := truthy_of_startsWith hmarked
    rw [if_pos hauthor, hs, if_pos htruthy]
    show source ∈ if Text.startsWith ['@'] source.toList then [source] else []
    rw [if_pos hmarked]
    exact List.mem_singleton_self _

/-- **What a packaged template asks for.** Each text that it has expanded cites only what is
collected from the content. Citations are asked for by quotes alone, and exactly for their sources
that begin with an at sign. -/
theorem requests_of_run {place : SlidePlace} {t : TemplateDefinition} (ht : t ∈ definitions)
    {es : Entries} (hes : (Value.map es).isData = true) (hnests : Value.nestsEntries es = false)
    (hconforms : Conforms (.map t.schema) (.map es)) {draft : String} {r : Requests}
    (hrun : Press.run place es t.output = .ok (draft, r)) :
    (∀ s ∈ r.expands, Citation.inText s ⊆ Citation.inEntries es) ∧
      ∀ source, source ∈ r.cites ↔ t = quote ∧ Cites es source := by
  have hnone {t' : TemplateDefinition} (hname : t'.name ≠ quote.name) (hcites : r.cites = [])
      (source : String) : source ∈ r.cites ↔ t' = quote ∧ Cites es source := by
    rw [hcites]
    exact iff_of_false List.not_mem_nil fun h => hname (congrArg _ h.1)
  have hlist (hconforms : Conforms (.map listSchema) (.map es))
      (hr : r.expands = ((es.part "items").items?.getD []).flatMap fun x =>
        [Requests.textToExpand x]) :
      ∀ s ∈ r.expands, Citation.inText s ⊆ Citation.inEntries es := fun s hs => by
    rw [hr] at hs
    obtain ⟨x, hx, hs⟩ := List.mem_flatMap.1 hs
    obtain rfl := List.mem_singleton.1 hs
    exact collected_of_item hconforms hes bounds_some (by simp) hnests hx
  have hquiet (hr : r.expands = []) : ∀ s ∈ r.expands, Citation.inText s ⊆ Citation.inEntries es :=
    fun s hs => by
      rw [hr] at hs
      cases hs
  simp only [definitions, List.mem_cons, List.not_mem_nil, or_false] at ht
  rcases ht with rfl | rfl | rfl | rfl | rfl | rfl | rfl | rfl | rfl
  · obtain ⟨hcites, hexpands⟩ := requests_of_amountsTo (parse_eq_ok (by simp [trees]))
      (bulletList_amounts hes) (asks_listTalk es _) hrun
    exact ⟨hlist hconforms hexpands, hnone (by decide) hcites⟩
  · obtain ⟨hcites, hexpands⟩ := requests_of_amountsTo (parse_eq_ok (by simp [trees]))
      (numberedList_amounts hes) (asks_listTalk es _) hrun
    exact ⟨hlist hconforms hexpands, hnone (by decide) hcites⟩
  · obtain ⟨hcites, hexpands⟩ := requests_of_amountsTo (parse_eq_ok (by simp [trees]))
      (section_amounts hes) (.pure _) hrun
    exact ⟨hquiet hexpands, hnone (by decide) hcites⟩
  · obtain ⟨hcites, hexpands⟩ := requests_of_amountsTo (parse_eq_ok (by simp [trees]))
      (titleSlide_amounts hes) (.pure _) hrun
    exact ⟨hquiet hexpands, hnone (by decide) hcites⟩
  · obtain ⟨hcites, hexpands⟩ := requests_of_amountsTo (parse_eq_ok (by simp [trees]))
      (table_amounts hes) (asks_tableTalk es) hrun
    refine ⟨fun s hs => ?_, hnone (by decide) hcites⟩
    rw [hexpands] at hs
    split_ifs at hs
    · obtain rfl := List.mem_singleton.1 hs
      exact collected_of_part hconforms hes (by simp)
    · cases hs
  · obtain ⟨hcites, hexpands⟩ := requests_of_amountsTo (parse_eq_ok (by simp [trees]))
      (iconGrid_amounts hes fun xs hxs x hx => map_of_conforms hconforms bounds_cards
        (List.mem_cons_of_mem _ List.mem_cons_self) hnests hxs hx) (asks_iconGridTalk es) hrun
    exact ⟨hquiet hexpands, hnone (by decide) hcites⟩
  · have hfield : ("source", text) ∈ [("text", text), ("author", text), ("source", text)] := by simp
    have hsource (htruthy : (es.part "source").truthy = true) : ∃ s, es.part "source" = .str s := by
      rcases str_of_conforms hconforms hes hfield with hp | hp | ⟨s, -, hp, -⟩
      · simp [hp, Value.truthy] at htruthy
      · simp [hp, Value.truthy] at htruthy
      · exact ⟨s, hp⟩
    obtain ⟨hcites, hexpands⟩ := requests_of_amountsTo (parse_eq_ok (by simp [trees]))
      (quote_amounts hes hsource) (asks_quoteTalk es) hrun
    refine ⟨hquiet hexpands, fun source => ?_⟩
    rw [hcites, mem_quotedSources hsource]
    exact (and_iff_right rfl).symm
  · obtain ⟨hcites, hexpands⟩ := requests_of_amountsTo (parse_eq_ok (by simp [trees]))
      (twoColumn_amounts hes) (asks_twoColumnTalk es) hrun
    refine ⟨fun s hs => ?_, hnone (by decide) hcites⟩
    rw [hexpands] at hs
    rcases List.mem_pair.1 hs with rfl | rfl
    · exact collected_of_part hconforms hes (by simp)
    · exact collected_of_part hconforms hes (by simp)
  · obtain ⟨hcites, hexpands⟩ := requests_of_amountsTo (parse_eq_ok (by simp [trees]))
      (bibliography_amounts (listable_of_conforms hes hnests hconforms)) (asks_bibliographyTalk es)
      hrun
    exact ⟨hquiet hexpands, hnone (by decide) hcites⟩

end SlidePress.Packaged
