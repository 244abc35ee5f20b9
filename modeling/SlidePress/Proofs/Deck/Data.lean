import SlidePress.Proofs.Deck.Lines
import SlidePress.Proofs.Value.Data

/-! # Decks are data

Whatever is built from a document is data (`Yaml.isData_of_load`), and so is the content of the
slides that are read from it (`Deck.isData_of_ofText`). -/

namespace SlidePress

open Attempt (bind_eq_ok map_eq_ok)

/-! ### Mappings -/

namespace Entries

theorem isData_insert {k v : Value} (hk : k.isData = true) (hv : v.isData = true) {es : Entries}
    (h : Value.entriesData es = true) : Value.entriesData (insert es k v) = true := by
  induction es with
  | nil => simp [insert, Value.entriesData, hk, hv]
  | cons e es ih =>
    simp only [Value.entriesData, Bool.and_eq_true] at h
    unfold insert
    split_ifs
    · simp [Value.entriesData, h.1.1, hv, h.2]
    · simp [Value.entriesData, h.1.1, h.1.2, ih h.2]

theorem isData_ofPairs {ps : List (Value × Value)} (h : Value.entriesData ps = true) :
    Value.entriesData (ofPairs ps) = true := by
  induction ps using List.reverseRecOn with
  | nil => rfl
  | append_singleton ps p ih =>
    have hall := Value.entriesData_iff.1 h
    obtain ⟨hk, hv⟩ := hall p (List.mem_append_right _ List.mem_cons_self)
    rw [ofPairs, update, List.foldl_append]
    exact isData_insert hk hv
      (ih (Value.entriesData_iff.2 fun e he => hall e (List.mem_append_left _ he)))

end Entries

/-! ### Documents -/

namespace Yaml

namespace Document

variable {d : Document}

theorem isData_of_timeOf {s : String} {v : Value} (h : timeOf s = .ok v) : v.isData = true := by
  unfold timeOf at h
  obtain ⟨p, -, h⟩ := bind_eq_ok.1 h
  split at h
  · obtain ⟨date, -, rfl⟩ := map_eq_ok.1 h
    rfl
  · obtain ⟨date, -, h⟩ := bind_eq_ok.1 h
    obtain ⟨t, -, rfl⟩ := map_eq_ok.1 h
    rfl

theorem isData_of_scalarOf {tag : Tag} {s : String} {v : Value} (h : scalarOf tag s = .ok v) :
    v.isData = true := by
  cases tag with
  | null | str =>
    cases h
    rfl
  | bool | int | float | binary =>
    obtain ⟨a, -, rfl⟩ := map_eq_ok.1 h
    rfl
  | timestamp => exact isData_of_timeOf h
  | _ => cases h

theorem allData_of_all {rs : List (Build Value)} {vs : List Value} (h : Build.all rs = .ok vs)
    (hrs : ∀ v, .ok v ∈ rs → v.isData = true) : Value.allData vs = true := by
  obtain rfl := Build.all_eq_ok.1 h
  exact Value.allData_iff.2 fun v hv => hrs v (List.mem_map_of_mem hv)

theorem entriesData_pairUp :
    ∀ {vs : List Value}, Value.allData vs = true → Value.entriesData (pairUp vs) = true
  | [], _ | [_], _ => rfl
  | a :: b :: vs, h => by
    simp only [Value.allData, Bool.and_eq_true] at h
    simp [pairUp, Value.entriesData, h.1, h.2.1, entriesData_pairUp h.2.2]

section

variable {child : Node → Build Value} (hchild : ∀ n v, child n = .ok v → v.isData = true)
include hchild

theorem entriesData_of_buildEntries {level : Nat} {pairs : List (Node × Node)} {es : Entries}
    (h : d.buildEntries level child pairs = .ok es) : Value.entriesData es = true := by
  obtain ⟨parts, hparts, h⟩ := bind_eq_ok.1 h
  cases h
  refine Entries.isData_ofPairs (entriesData_pairUp (allData_of_all hparts fun v hv => ?_))
  obtain ⟨p, -, hv⟩ := List.mem_flatMap.1 hv
  rcases List.mem_pair.1 hv with hv | hv
  · unfold buildKey at hv
    split_ifs at hv
    · cases hv
    · exact hchild _ v hv.symm
  · exact hchild _ v hv.symm

theorem allData_of_buildPairs {level : Nat} {items : List Node} {xs : List Value}
    (h : d.buildPairs level child items = .ok xs) : Value.allData xs = true := by
  obtain ⟨parts, hparts, h⟩ := bind_eq_ok.1 h
  cases h
  have hpairs : Value.entriesData (pairUp parts) = true :=
    entriesData_pairUp (allData_of_all hparts fun v hv => by
      obtain ⟨i, -, hv⟩ := List.mem_flatMap.1 hv
      split at hv
      · rcases List.mem_pair.1 hv with hv | hv <;> exact hchild _ v hv.symm
      · cases List.mem_singleton.1 hv)
  refine Value.allData_iff.2 fun x hx => ?_
  obtain ⟨e, he, rfl⟩ := List.mem_map.1 hx
  obtain ⟨hk, hv⟩ := Value.entriesData_iff.1 hpairs e he
  simp [Value.isData, Value.allData, hk, hv]

end

/-- **What is built from a node** is data. -/
theorem isData_of_build {fuel : Nat} {opened : List (Option String)} {level : Nat} {node : Node}
    {v : Value} (h : d.build fuel opened level node = .ok v) : v.isData = true := by
  induction fuel generalizing opened level node v with
  | zero => cases h
  | succ fuel ih =>
    rcases build_succ_eq_ok h with ⟨_, _, rfl⟩ | hbuilt
    · rfl
    have hchild : ∀ n w, d.build fuel (nameOf (d.target node) :: opened) (level + 1) n = .ok w →
      w.isData = true := fun n w hw => ih hw
    cases hbuilt with
    | list _ hitems =>
      refine Value.allData_iff.2 fun x hx => ?_
      have hmem := List.mem_map_of_mem (f := Except.ok (ε := Nat × Fault)) hx
      rw [← hitems] at hmem
      obtain ⟨n, -, hn⟩ := List.mem_map.1 hmem
      exact hchild n x hn
    | map _ _ _ hentries => exact entriesData_of_buildEntries hchild hentries
    | set _ _ hentries =>
      refine Value.allData_iff.2 fun x hx => ?_
      obtain ⟨e, he, rfl⟩ := List.mem_map.1 hx
      exact (Value.entriesData_iff.1 (entriesData_of_buildEntries hchild hentries) e he).1
    | pairs _ hpairs => exact allData_of_buildPairs hchild hpairs
    | scalar _ _ hv => exact isData_of_scalarOf hv

end Document

/-- **The value of a text** is data. -/
theorem isData_of_load {s : String} {v : Value} (h : load s = .ok v) : v.isData = true := by
  obtain ⟨o, -, h⟩ := bind_eq_ok.1 h
  cases o with
  | none =>
    cases h
    rfl
  | some d =>
    replace h : d.data = .ok v := h
    unfold Document.data at h
    split at h
    · rename_i hv
      cases h
      exact Document.isData_of_build hv
    · cases h

end Yaml

/-! ### Reading -/

namespace Fields

theorem exists_of_mem_all {α : Type} {a : α} :
    ∀ {rs : List (Reading α)} {as : List α}, all rs = .ok as → a ∈ as → .ok a ∈ rs
  | [], as, h, ha => by
    cases h
    cases ha
  | r :: rs, as, h, ha => by
    obtain ⟨g, bs, hg, hbs, rfl⟩ := (andThen_eq_ok_iff _ _ _).1 h
    obtain ⟨b, rfl, rfl⟩ := map_eq_ok.1 hg
    rcases List.mem_cons.1 ha with rfl | ha
    · exact List.mem_cons_self
    · exact List.mem_cons_of_mem _ (exists_of_mem_all hbs ha)

theorem under_eq_ok {α : Type} {step : String} {r : Reading α} {a : α} :
    under step r = .ok a ↔ r = .ok a := by
  cases r <;> simp [under]

/-- What is read from a list of data is read from data. -/
theorem exists_of_mem_listOf {α : Type} {read : Reader α} {v : Value} {as : List α}
    (h : listOf read v = .ok as) (hv : v.isData = true) {a : α} (ha : a ∈ as) :
    ∃ x, x.isData = true ∧ read x = .ok a := by
  have hitems {xs : List Value} (hxs : Value.allData xs = true) (h : items read xs = .ok as) :
      ∃ x, x.isData = true ∧ read x = .ok a := by
    obtain ⟨i, hi, hx⟩ := List.mem_mapIdx.1 (exists_of_mem_all h ha)
    exact ⟨xs[i], Value.allData_iff.1 hxs _ (List.getElem_mem hi), under_eq_ok.1 hx⟩
  cases v with
  | list xs => exact hitems (Value.allData_members hv) h
  | tuple xs | set xs => exact hitems hv h
  | _ => cases h

/-- A mapping with names that is read from data is data. -/
theorem isData_of_openMap {v : Value} {es : Entries} (h : openMap v = .ok es)
    (hv : v.isData = true) : (Value.map es).isData = true := by
  obtain ⟨ps, hps, rfl⟩ := map_eq_ok.1 h
  refine Entries.isData_ofPairs (Value.entriesData_iff.2 fun e he => ?_)
  obtain ⟨p, hp, rfl⟩ := List.mem_map.1 he
  refine ⟨rfl, ?_⟩
  cases v with
  | map fs =>
    obtain ⟨f, hf, hread⟩ := List.mem_map.1 (exists_of_mem_all hps hp)
    obtain ⟨g, w, hg, hw, rfl⟩ := (andThen_eq_ok_iff _ _ _).1 (under_eq_ok.1 hread)
    obtain ⟨name, -, rfl⟩ := map_eq_ok.1 hg
    cases hw
    exact (Value.entriesData_iff.1 (Entries.isData_members hv) f hf).2
  | _ => cases hps

end Fields

/-- The content of a slide that is read from data is data. -/
theorem Slide.isData_of_ofValue {v : Value} {s : Slide} (h : Slide.ofValue v = .ok s)
    (hv : v.isData = true) : (Value.map s.content).isData = true := by
  obtain ⟨es, rfl⟩ := Slide.exists_map_of_ofValue h
  obtain ⟨es', hes, h⟩ := bind_eq_ok.1 h
  cases hes
  obtain ⟨f, raw, hnoted, -, rfl⟩ := (Fields.andThen_eq_ok_iff _ _ _).1 h
  obtain ⟨f, notes, hclassed, -, rfl⟩ := (Fields.andThen_eq_ok_iff _ _ _).1 hnoted
  obtain ⟨f, cssClass, hfilled, -, rfl⟩ := (Fields.andThen_eq_ok_iff _ _ _).1 hclassed
  obtain ⟨f, content, hnamed, hcontent, rfl⟩ := (Fields.andThen_eq_ok_iff _ _ _).1 hfilled
  obtain ⟨template, -, rfl⟩ := map_eq_ok.1 hnamed
  show (Value.map content).isData = true
  unfold Fields.withDefault at hcontent
  cases hget : Entries.get? (Entries.members es) "content" with
  | none =>
    rw [hget] at hcontent
    cases hcontent
    rfl
  | some v =>
    rw [hget] at hcontent
    replace hcontent := Fields.under_eq_ok.1 hcontent
    obtain ⟨k, hk⟩ := Entries.mem_of_find? hget
    have hv := (Value.entriesData_iff.1 (Entries.isData_members hv) _ hk).2
    cases v with
    | null =>
      cases hcontent
      rfl
    | map fs => exact Fields.isData_of_openMap hcontent hv
    | _ => cases hcontent

namespace Deck

/-- **The content of slides** that are read from a text is data. -/
theorem isData_of_ofText {text : String} {d : Deck} (h : ofText text = .ok d) :
    ∀ s ∈ d.slides, (Value.map s.content).isData = true := by
  intro s hs
  unfold ofText at h
  cases hload : Yaml.load text with
  | error f =>
    rw [hload] at h
    cases h
  | ok v =>
    rw [hload] at h
    have hv := Yaml.isData_of_load hload
    obtain ⟨es, rfl, hvalue⟩ := ofValue_of_check h
    rcases slides_of_ofValue hvalue with ⟨-, hnil⟩ | ⟨x, hx, hslides⟩
    · rw [hnil] at hs
      cases hs
    · obtain ⟨k, hk⟩ := Entries.mem_of_find? hx
      have hx := Value.isData_outOf hv 0 (Value.entriesData_iff.1 hv _ hk).2
      obtain ⟨y, hy, hread⟩ := Fields.exists_of_mem_listOf hslides hx hs
      exact Slide.isData_of_ofValue hread hy

end Deck

end SlidePress
