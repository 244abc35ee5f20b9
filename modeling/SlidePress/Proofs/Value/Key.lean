import Mathlib.Data.List.Induction
import Mathlib.Tactic.SplitIfs
import SlidePress.Proofs.Value.Order
import SlidePress.Schema

/-! # Texts as keys

Keys that are texts are the same exactly if they are equal, they can always be put in order, and
making them distinct loses none. In a mapping that is made from pairs, the last pair under a text is
the one that counts (`get?_ofPairs`). -/

namespace SlidePress

namespace Value

/-- What is the same as a value that holds a text is what holds that text. -/
theorem same_iff_left {v w : Value} {s : String} (hv : v.text? = some s) :
    v.same w = true ↔ w.text? = some s := by
  cases v with
  | str t | markup t =>
    cases hv
    cases w <;> simp [same, sameScalar, numeric?, text?, @eq_comm _ s]
  | _ => cases hv

theorem same_iff_right {v w : Value} {s : String} (hw : w.text? = some s) :
    v.same w = true ↔ v.text? = some s := by
  cases w with
  | str t | markup t =>
    cases hw
    cases v <;> simp [same, sameScalar, numeric?, text?]
  | _ => cases hw

/-- A value is the same as a text exactly if it holds that text. -/
theorem same_str_iff {v : Value} {s : String} : v.same (.str s) = true ↔ v.text? = some s :=
  same_iff_right rfl

theorem str_same_str {s t : String} : (str s).same (.str t) = true ↔ s = t := by
  simp [same_str_iff, text?]

/-- A text is the same as a value exactly if the value holds that text. -/
theorem str_same_iff {v : Value} {s : String} : (str s).same v = true ↔ v.text? = some s :=
  same_iff_left rfl

/-- Of two values that are the same, both hold a text or none does. -/
theorem text?_eq_of_same {v w : Value} {s : String} (h : v.same w = true) :
    v.text? = some s ↔ w.text? = some s :=
  ⟨fun hv => (same_iff_left hv).1 h, fun hw => (same_iff_right hw).1 h⟩

theorem same_of_text? {v w : Value} {s : String} (hv : v.text? = some s) (hw : w.text? = some s) :
    v.same w = true := (same_iff_left hv).2 hw

theorem outOfList_eq_map (whole : Value) (depth : Nat) (xs : List Value) :
    outOfList whole depth xs = xs.map (outOf whole depth) := by
  induction xs with
  | nil => rfl
  | cons x xs ih => rw [outOfList, ih, List.map_cons]

theorem outOfEntries_eq_map (whole : Value) (depth : Nat) (es : Entries) :
    outOfEntries whole depth es = es.map fun e => (e.1, outOf whole depth e.2) := by
  induction es with
  | nil => rfl
  | cons e es ih => rw [outOfEntries, ih, List.map_cons]

theorem text?_outOf {whole v : Value} {depth : Nat} (hw : whole.text? = none) :
    (outOf whole depth v).text? = v.text? := by
  cases v with
  | again up isMap =>
    rw [outOf]
    split_ifs
    · exact hw
    · rfl
  | _ => rfl

theorem eq_null_of_outOf {whole v : Value} {depth : Nat} (hw : whole ≠ .null)
    (h : outOf whole depth v = .null) : v = .null := by
  cases v with
  | null => rfl
  | again up isMap =>
    rw [outOf] at h
    split_ifs at h
    exact absurd h hw
  | _ => cases h

/-- **Texts can be put in order**, and none is lost. -/
theorem exists_sorted {ks : List Value} (h : ∀ k ∈ ks, ∃ s, k = .str s) :
    ∃ r, sorted ks = .ok r ∧ r.Perm ks := by
  have hkeyed : (ks.map fun v => (v, v)) = ks.map (keyed text str) := by
    refine List.map_congr_left fun k hk => ?_
    obtain ⟨s, rfl⟩ := h k hk
    rfl
  obtain ⟨r, hr, hsorted⟩ := exists_sortOn text compares_str ks
  exact ⟨r, by rw [sorted, hkeyed, hr], hsorted.perm⟩

end Value

namespace Entries

theorem mem_of_find? {es : Entries} {k v : Value} (h : es.find? k = some v) :
    ∃ k', (k', v) ∈ es := by
  obtain ⟨e, he, rfl⟩ := Option.map_eq_some_iff.1 h
  exact ⟨e.1, List.mem_of_find?_eq_some he⟩

theorem find?_eq_none {es : Entries} {k : Value} (h : ∀ e ∈ es, k.same e.1 = false) :
    find? es k = none := by
  rw [find?, List.find?_eq_none.2 fun e he => by simp [h e he]]
  rfl

/-- What is found in a mapping stands in it. -/
theorem mem_of_getD {es : Entries} {name : String} (h : es.getD name ≠ .null) :
    ∃ k, (k, es.getD name) ∈ es := by
  unfold getD at h ⊢
  rcases hf : es.get? name with _ | v
  · rw [hf] at h
    exact absurd rfl h
  · exact mem_of_find? hf

/-- A value whose key is free is set behind all others. -/
theorem insert_of_free {k v : Value} :
    ∀ {es : Entries}, (∀ e ∈ es, k.same e.1 = false) → insert es k v = es ++ [(k, v)]
  | [], _ => rfl
  | (k', v') :: es, h => by
    have hk : k.same k' = false := h (k', v') List.mem_cons_self
    rw [insert, hk, insert_of_free fun e he => h e (List.mem_cons_of_mem _ he)]
    rfl

/-- Setting a value changes what is found under the text that the key holds, and nothing else. -/
theorem get?_insert (es : Entries) (k v : Value) (name : String) :
    get? (insert es k v) name = if k.text? = some name then some v else get? es name := by
  induction es with
  | nil =>
    rw [insert, get?, find?_cons]
    simp only [Value.str_same_iff]
    rfl
  | cons e es ih =>
    unfold get? at ih ⊢
    unfold insert
    split
    · rename_i hk
      rw [find?_cons, find?_cons]
      simp only [Value.str_same_iff, ← Value.text?_eq_of_same hk]
      split <;> rfl
    · rename_i hk
      rw [find?_cons, find?_cons, ih]
      simp only [Value.str_same_iff]
      by_cases he : e.1.text? = some name
      · -- otherwise the two keys would hold the same text
        rw [if_pos he, if_pos he, if_neg fun h => hk (Value.same_of_text? h he)]
      · rw [if_neg he, if_neg he]

/-- Of the pairs that a mapping is made from, the last one under a text is found there. -/
theorem get?_ofPairs (ps : List (Value × Value)) (name : String) :
    get? (ofPairs ps) name =
      (ps.reverse.find? fun p => p.1.text? == some name).map Prod.snd := by
  induction ps using List.reverseRecOn with
  | nil => rfl
  | append_singleton ps p ih =>
    have hinsert : ofPairs (ps ++ [p]) = insert (ofPairs ps) p.1 p.2 := by
      rw [ofPairs, update, List.foldl_append]
      rfl
    rw [hinsert, get?_insert, ih, List.reverse_append, List.reverse_singleton,
      List.singleton_append, List.find?_cons]
    by_cases h : p.1.text? = some name
    · rw [if_pos h, beq_iff_eq.2 h]
      rfl
    · rw [if_neg h, beq_false_of_ne h]

theorem get?_ofNames (ps : List (String × Value)) (name : String) :
    get? (ofNames ps) name = ps.lookup name := by
  induction ps with
  | nil => rfl
  | cons p ps ih =>
    unfold get? at ih ⊢
    rw [ofNames, List.map_cons, find?_cons, List.lookup_cons, ← ofNames, ih]
    by_cases h : name = p.1
    · rw [if_pos (Value.str_same_str.2 h), beq_iff_eq.2 h]
    · rw [if_neg (mt Value.str_same_str.1 h), beq_false_of_ne h]

theorem getD_ofNames (ps : List (String × Value)) (name : String) :
    getD (ofNames ps) name = (ps.lookup name).getD .null := by
  rw [getD, get?_ofNames]

theorem mem_of_get?_ofNames {ps : List (String × Value)} {name : String} {v : Value}
    (h : get? (ofNames ps) name = some v) : (name, v) ∈ ps := by
  rw [get?_ofNames] at h
  obtain ⟨l, r, rfl, -⟩ := List.lookup_eq_some_iff.1 h
  simp

/-- Names that are different make a mapping as they stand. -/
theorem ofPairs_ofNames {ps : List (String × Value)} (h : (ps.map Prod.fst).Nodup) :
    ofPairs (ofNames ps) = ofNames ps := by
  induction ps using List.reverseRecOn with
  | nil => rfl
  | append_singleton ps p ih =>
    rw [List.map_append, List.nodup_append] at h
    have hfree : ∀ e ∈ ofNames ps, (Value.str p.1).same e.1 = false := fun e he => by
      obtain ⟨q, hq, rfl⟩ := List.mem_map.1 he
      refine Bool.eq_false_of_not_eq_true fun hsame => ?_
      exact h.2.2 q.1 (List.mem_map_of_mem hq) p.1 (by simp) (Value.str_same_str.1 hsame).symm
    have hsplit : ofNames (ps ++ [p]) = ofNames ps ++ [(.str p.1, p.2)] := List.map_append
    rw [hsplit, ofPairs, update, List.foldl_append]
    show insert (ofPairs (ofNames ps)) (.str p.1) p.2 = _
    rw [ih h.1, insert_of_free hfree]

theorem exists_key_of_mem_insert {es : Entries} {k v : Value} {e : Value × Value}
    (h : e ∈ insert es k v) : e.1 = k ∨ ∃ f ∈ es, f.1 = e.1 := by
  induction es with
  | nil => exact .inl (by rw [List.mem_singleton.1 h])
  | cons f es ih =>
    unfold insert at h
    split at h
    · rcases List.mem_cons.1 h with rfl | h
      · exact .inr ⟨f, List.mem_cons_self, rfl⟩
      · exact .inr ⟨e, List.mem_cons_of_mem f h, rfl⟩
    · rcases List.mem_cons.1 h with rfl | h
      · exact .inr ⟨f, List.mem_cons_self, rfl⟩
      · rcases ih h with hk | ⟨g, hg, hk⟩
        · exact .inl hk
        · exact .inr ⟨g, List.mem_cons_of_mem f hg, hk⟩

/-- The keys of a mapping are among those of the pairs it is made from. -/
theorem exists_key_of_mem_ofPairs {ps : List (Value × Value)} {e : Value × Value}
    (h : e ∈ ofPairs ps) : ∃ p ∈ ps, p.1 = e.1 := by
  induction ps using List.reverseRecOn generalizing e with
  | nil => cases h
  | append_singleton ps p ih =>
    rw [ofPairs, update, List.foldl_append] at h
    rcases exists_key_of_mem_insert h with hk | ⟨f, hf, hk⟩
    · exact ⟨p, by simp, hk.symm⟩
    · obtain ⟨q, hq, hqf⟩ := ih hf
      exact ⟨q, List.mem_append_left _ hq, hqf.trans hk⟩

/-- A value found in a mapping is taken out of it as a whole. -/
theorem get?_outOfEntries (whole : Value) (depth : Nat) (es : Entries) (name : String) :
    get? (Value.outOfEntries whole depth es) name = (get? es name).map (Value.outOf whole depth) := by
  induction es with
  | nil => rfl
  | cons e es ih =>
    obtain ⟨k, v⟩ := e
    rw [Value.outOfEntries]
    show find? _ _ = (find? _ _).map _
    rw [find?_cons, find?_cons]
    split
    · rfl
    · exact ih

end Entries

namespace Schema

theorem mem_foldl_distinct {k : Value} :
    ∀ {ks got : List Value}, (∀ x ∈ ks, ∃ s, x = .str s) → (∀ x ∈ got, ∃ s, x = .str s) →
      (k ∈ ks.foldl (fun got k => if got.any fun g => k.same g then got else got ++ [k]) got ↔
        k ∈ got ∨ k ∈ ks)
  | [], got, _, _ => by simp
  | x :: ks, got, hk, hg => by
    obtain ⟨s, rfl⟩ := hk x List.mem_cons_self
    have hks : ∀ y ∈ ks, ∃ t, y = .str t := fun y hy => hk y (List.mem_cons_of_mem _ hy)
    rw [List.foldl_cons]
    split_ifs with hs
    · obtain ⟨g, hgm, hsame⟩ := List.any_eq_true.1 hs
      obtain ⟨t, rfl⟩ := hg g hgm
      obtain rfl := Value.str_same_str.1 hsame
      rw [mem_foldl_distinct hks hg, List.mem_cons]
      constructor
      · rintro (h | h)
        · exact Or.inl h
        · exact Or.inr (Or.inr h)
      · rintro (h | rfl | h)
        · exact Or.inl h
        · exact Or.inl hgm
        · exact Or.inr h
    · have hgs : ∀ y ∈ got ++ [.str s], ∃ t, y = .str t := fun y hy => by
        rcases List.mem_append.1 hy with hy | hy
        · exact hg y hy
        · exact ⟨s, List.mem_singleton.1 hy⟩
      rw [mem_foldl_distinct hks hgs, List.mem_append, List.mem_singleton, List.mem_cons, or_assoc]

/-- Making texts distinct loses none. -/
theorem mem_distinct {k : Value} {ks : List Value} (h : ∀ x ∈ ks, ∃ s, x = .str s) :
    k ∈ distinct ks ↔ k ∈ ks := by
  rw [distinct, mem_foldl_distinct h (fun x hx => absurd hx List.not_mem_nil)]
  simp

end Schema

end SlidePress
