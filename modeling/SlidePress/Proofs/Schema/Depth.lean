import SlidePress.Proofs.Schema.Decision

/-! # The depth of a declaration

Compiling goes down to a depth that is bounded by the number of values. The bound is no restriction:
the places that can be reached are places in the value as it is written, and a declaration that
nests deeper than there are places nests without end. So allowing for more depth changes nothing
(`compileAt_stable`): with every further step either more places than before are done or none will
ever be. -/

namespace SlidePress.Schema

/-! ### More depth -/

/-- What came out of some operations still comes out where only those that were too deep differ. -/
theorem mapM_eq_of_tooDeep {f g : Place → Attempt Schema} : ∀ {ps : List Place},
    (∀ p ∈ ps, f p ≠ .error .tooDeep → g p = f p) → ps.mapM f ≠ .error .tooDeep →
      ps.mapM g = ps.mapM f
  | [], _, _ => rfl
  | p :: ps, h, hne => by
    rw [List.mapM_cons] at hne
    have hp : f p ≠ .error .tooDeep := fun hdeep => by
      rw [hdeep] at hne
      exact hne rfl
    rw [List.mapM_cons, List.mapM_cons, h p List.mem_cons_self hp]
    cases hfp : f p with
    | error e => rfl
    | ok s =>
      rw [hfp] at hne
      have hps : ps.mapM f ≠ .error .tooDeep := fun hdeep => by
        rw [hdeep] at hne
        exact hne rfl
      rw [mapM_eq_of_tooDeep (fun q hq => h q (List.mem_cons_of_mem p hq)) hps]

/-- What comes out at some depth comes out at greater depths, too. -/
theorem compileAt_succ : ∀ {n : Nat} {p : Place}, compileAt n p ≠ .error .tooDeep →
    compileAt (n + 1) p = compileAt n p
  | 0, _, h => absurd rfl h
  | n + 1, p, h => by
    rw [compileAt] at h ⊢
    rw [compileAt]
    cases ho : outline p with
    | error f => rfl
    | ok o =>
      rw [ho] at h
      have hparts : o.parts.mapM (compileAt n) ≠ .error .tooDeep := fun hdeep =>
        h (by rw [Attempt.bind_ok rfl, hdeep]; rfl)
      rw [Attempt.bind_ok rfl, Attempt.bind_ok rfl,
        mapM_eq_of_tooDeep (fun q _ hq => compileAt_succ hq) hparts]

theorem compileAt_of_le {n m : Nat} {p : Place} (h : compileAt n p ≠ .error .tooDeep)
    (hnm : n ≤ m) : compileAt m p = compileAt n p := by
  induction m, hnm using Nat.le_induction with
  | base => rfl
  | succ m _ ih => rw [compileAt_succ (by rw [ih]; exact h), ih]

/-! ### Places in a value -/

mutual

/-- A value and all values in it, at their places. -/
def placesIn (around : List Value) : Value → List Place
  | .list xs => ⟨around, .list xs⟩ :: placesInList (.list xs :: around) xs
  | .tuple xs => ⟨around, .tuple xs⟩ :: placesInList around xs
  | .set xs => ⟨around, .set xs⟩ :: placesInList around xs
  | .map es => ⟨around, .map es⟩ :: placesInEntries (.map es :: around) es
  | v => [⟨around, v⟩]
termination_by structural v => v

/-- All values in some values, at their places. -/
def placesInList (around : List Value) : List Value → List Place
  | [] => []
  | x :: xs => placesIn around x ++ placesInList around xs
termination_by structural xs => xs

/-- All values in some entries, at their places. -/
def placesInEntries (around : List Value) : List (Value × Value) → List Place
  | [] => []
  | (k, v) :: es => placesIn around k ++ placesIn around v ++ placesInEntries around es
termination_by structural es => es

end

mutual

theorem length_placesIn (around : List Value) : ∀ v : Value, (placesIn around v).length = nodes v
  | .list xs => by
    rw [placesIn, nodes, List.length_cons, length_placesInList]
  | .tuple xs => by
    rw [placesIn, nodes, List.length_cons, length_placesInList]
  | .set xs => by
    rw [placesIn, nodes, List.length_cons, length_placesInList]
  | .map es => by
    rw [placesIn, nodes, List.length_cons, length_placesInEntries]
  | .null | .bool _ | .int _ | .float _ | .str _ | .markup _ | .bytes _ | .date _ | .timestamp _
  | .again _ _ | .range _ _ _ | .undefined | .method _ _ | .ref _ => rfl

theorem length_placesInList (around : List Value) :
    ∀ xs : List Value, (placesInList around xs).length = nodesList xs
  | [] => rfl
  | x :: xs => by
    rw [placesInList, nodesList, List.length_append, length_placesIn, length_placesInList]

theorem length_placesInEntries (around : List Value) :
    ∀ es : List (Value × Value), (placesInEntries around es).length = nodesEntries es
  | [] => rfl
  | (k, v) :: es => by
    rw [placesInEntries, nodesEntries, List.length_append, List.length_append, length_placesIn,
      length_placesIn, length_placesInEntries]

end

theorem mem_placesIn (p : Place) : p ∈ placesIn p.around p.value := by
  obtain ⟨around, v⟩ := p
  cases v <;> exact List.mem_cons_self

theorem placesIn_subset_list {around : List Value} {x : Value} :
    ∀ {xs : List Value}, x ∈ xs → placesIn around x ⊆ placesInList around xs
  | y :: xs, h => by
    rw [placesInList]
    rcases List.mem_cons.1 h with rfl | h
    · exact List.subset_append_left _ _
    · exact List.subset_append_of_subset_right _ (placesIn_subset_list h)

theorem placesIn_subset_entries {around : List Value} {e : Value × Value} :
    ∀ {es : Entries}, e ∈ es →
      placesIn around e.1 ⊆ placesInEntries around es ∧
        placesIn around e.2 ⊆ placesInEntries around es
  | (k, v) :: es, h => by
    rw [placesInEntries]
    rcases List.mem_cons.1 h with rfl | h
    · exact ⟨List.subset_append_of_subset_left _ (List.subset_append_left _ _),
        List.subset_append_of_subset_left _ (List.subset_append_right _ _)⟩
    · obtain ⟨hk, hv⟩ := placesIn_subset_entries h
      exact ⟨List.subset_append_of_subset_right _ hk, List.subset_append_of_subset_right _ hv⟩

/-- Something is directly in a value. -/
inductive Inside (x : Value) : Value → Prop
  | list {xs : List Value} (h : x ∈ xs) : Inside x (.list xs)
  | tuple {xs : List Value} (h : x ∈ xs) : Inside x (.tuple xs)
  | set {xs : List Value} (h : x ∈ xs) : Inside x (.set xs)
  | key {es : Entries} {e : Value × Value} (h : e ∈ es) (hx : e.1 = x) : Inside x (.map es)
  | value {es : Entries} {e : Value × Value} (h : e ∈ es) (hx : e.2 = x) : Inside x (.map es)

theorem placesIn_inner_subset {p : Place} {x : Value} (h : Inside x p.value) :
    placesIn (p.inner x).around x ⊆ placesIn p.around p.value := by
  obtain ⟨around, v⟩ := p
  cases h with
  | list h | tuple h | set h =>
    exact List.subset_cons_of_subset _ (placesIn_subset_list h)
  | key h hx =>
    rw [← hx]
    exact List.subset_cons_of_subset _ (placesIn_subset_entries h).1
  | value h hx =>
    rw [← hx]
    exact List.subset_cons_of_subset _ (placesIn_subset_entries h).2

/-- **A place lies within some places**: all values in it and in what is around it have their places
among them. -/
structure Within (T : List Place) (p : Place) : Prop where
  value : placesIn p.around p.value ⊆ T
  around : ∀ v outer, v :: outer <:+ p.around → placesIn outer v ⊆ T

variable {T : List Place} {p q : Place}

theorem within_placesIn (v : Value) : Within (placesIn [] v) ⟨[], v⟩ where
  value := List.Subset.refl _
  around := fun _ _ h => by cases List.suffix_nil.1 h

theorem Within.mem (h : Within T p) : p ∈ T := h.value (mem_placesIn p)

theorem Within.whole (h : Within T p) : Within T p.whole := by
  unfold Place.whole
  split
  · split
    · rename_i v outer hdrop
      have hsuffix : v :: outer <:+ p.around := hdrop ▸ List.drop_suffix _ _
      exact ⟨h.around v outer hsuffix, fun w rest hw =>
        h.around w rest (hw.trans ((List.suffix_cons v outer).trans hsuffix))⟩
    · exact h
  · exact h

theorem Within.inner {x : Value} (h : Within T p) (hx : Inside x p.value) :
    Within T (p.inner x) where
  value := by
    rw [value_inner]
    exact List.Subset.trans (placesIn_inner_subset hx) h.value
  around := fun v outer hv => by
    have hcases : v :: outer <:+ p.around ∨ v = p.value ∧ outer = p.around := by
      unfold Place.inner at hv
      split at hv
      · rcases List.suffix_cons_iff.1 hv with heq | hsuffix
        · exact Or.inr (List.cons.inj heq)
        · exact Or.inl hsuffix
      · rcases List.suffix_cons_iff.1 hv with heq | hsuffix
        · exact Or.inr (List.cons.inj heq)
        · exact Or.inl hsuffix
      · exact Or.inl hv
    rcases hcases with hsuffix | ⟨rfl, rfl⟩
    · exact h.around v outer hsuffix
    · exact h.value

theorem inside_getD {es : Entries} {name : String} (h : es.getD name ≠ .null) :
    Inside (es.getD name) (.map es) := by
  obtain ⟨k, hk⟩ := Entries.mem_of_getD h
  exact .value hk rfl

/-- A keyword is left out or its value lies within the places of the declaration. -/
theorem Within.keyword {es : Entries} (h : Within T p) (hp : p.value = .map es) (name : String) :
    (p.keyword es name).value = .null ∨ Within T (p.keyword es name) := by
  by_cases hnull : es.getD name = .null
  · rw [keyword_eq hnull (by simp), value_inner]
    exact Or.inl rfl
  · exact Or.inr (h.inner (hp ▸ inside_getD hnull)).whole

/-- A declaration without others in it. -/
def Shallow (p : Place) : Prop := ∀ o, outline p = .ok o → o.parts = []

theorem shallow_of_str {s : String} (h : p.value = .str s) : Shallow p := by
  obtain ⟨around, v⟩ := p
  cases h
  exact fun o ho => by cases ho

theorem shallow_of_int {n : Int} (h : p.value = .int n) : Shallow p := by
  obtain ⟨around, v⟩ := p
  cases h
  exact fun o ho => by cases ho

theorem shallow_of_nothing (h : p.value = .map []) : Shallow p := by
  obtain ⟨around, v⟩ := p
  cases h
  intro o ho
  cases ho
  rfl

theorem eq_map_of_declaration {v : Value} {es : Entries} (h : declaration v = .ok es) :
    v = .map es := by
  cases v with
  | map => exact congrArg _ (Except.ok.inj h)
  | _ => cases h

/-- What a value is gone through for is in it, or it is a single character or byte. -/
theorem inside_of_mem_itemsOf {v x : Value} {xs : List Value} (h : itemsOf v = .ok xs)
    (hx : x ∈ xs) : Inside x v ∨ (∃ s, x = .str s) ∨ ∃ n, x = .int n := by
  cases v with
  | list ys =>
    cases h
    exact Or.inl (.list hx)
  | tuple ys =>
    cases h
    exact Or.inl (.tuple hx)
  | set ys =>
    cases h
    exact Or.inl (.set hx)
  | map es =>
    cases h
    obtain ⟨e, he, rfl⟩ := List.mem_map.1 hx
    exact Or.inl (.key he rfl)
  | str s =>
    cases h
    obtain ⟨c, -, rfl⟩ := List.mem_map.1 hx
    exact Or.inr (Or.inl ⟨_, rfl⟩)
  | bytes bs =>
    cases h
    obtain ⟨b, -, rfl⟩ := List.mem_map.1 hx
    exact Or.inr (Or.inr ⟨_, rfl⟩)
  | _ => cases h

theorem within_or_shallow_inner {x : Value} (h : Within T p)
    (hx : Inside x p.value ∨ (∃ s, x = .str s) ∨ ∃ n, x = .int n) :
    Within T (p.inner x) ∨ Shallow (p.inner x) := by
  rcases hx with hx | ⟨s, rfl⟩ | ⟨n, rfl⟩
  · exact Or.inl (h.inner hx)
  · exact Or.inr (shallow_of_str (value_inner p _))
  · exact Or.inr (shallow_of_int (value_inner p _))

theorem Within.parts_type {es : Entries} {type : Value} {o : Outline} (h : Within T p)
    (hp : p.value = .map es) (ho : outlineType p es type = .ok o) :
    ∀ q ∈ o.parts, Within T q ∨ Shallow q := by
  unfold outlineType at ho
  split at ho
  · obtain ⟨rule, -, ho⟩ := Attempt.bind_eq_ok.1 ho
    cases ho
    exact fun q hq => absurd hq List.not_mem_nil
  · cases ho
    exact fun q hq => absurd hq List.not_mem_nil
  · cases ho
    exact fun q hq => absurd hq List.not_mem_nil
  · cases ho
    exact fun q hq => absurd hq List.not_mem_nil
  · cases ho
    unfold outlineArray
    simp only
    split
    · exact fun q hq => absurd hq List.not_mem_nil
    · rename_i hne
      intro q hq
      rw [List.mem_singleton.1 hq]
      exact Or.inl ((h.keyword hp "items").resolve_left hne)
  · unfold outlineObject at ho
    simp only at ho
    split at ho
    · cases ho
      exact fun q hq => absurd hq List.not_mem_nil
    · rename_i hne
      obtain ⟨required, -, ho⟩ := Attempt.bind_eq_ok.1 ho
      obtain ⟨declared, hd, ho⟩ := Attempt.bind_eq_ok.1 ho
      cases ho
      have hproperties := (h.keyword hp "properties").resolve_left hne
      have hmap := eq_map_of_declaration hd
      intro q hq
      obtain ⟨e, he, rfl⟩ := List.mem_map.1 hq
      by_cases ht : e.2.truthy = true
      · rw [orNothing, if_pos ht]
        exact Or.inl (hproperties.inner (hmap ▸ .value he rfl))
      · rw [orNothing, if_neg ht]
        exact Or.inr (shallow_of_nothing (value_inner _ _))
  · cases ho
    exact fun q hq => absurd hq List.not_mem_nil

/-- The declarations in one that lies within some places lie within them, too, or they have no
others in them. -/
theorem Within.parts {o : Outline} (h : Within T p) (ho : outline p = .ok o) :
    ∀ q ∈ o.parts, Within T q ∨ Shallow q := by
  unfold outline at ho
  simp only at ho
  obtain ⟨es, hes, ho⟩ := Attempt.bind_eq_ok.1 ho
  have hp := eq_map_of_declaration hes
  split_ifs at ho with ht
  · obtain ⟨items, hitems, ho⟩ := Attempt.bind_eq_ok.1 ho
    cases ho
    have honeOf := (h.whole.keyword hp "oneOf").resolve_left fun hnull => by
      rw [hnull] at ht
      cases ht
    intro q hq
    obtain ⟨x, hx, rfl⟩ := List.mem_map.1 hq
    exact within_or_shallow_inner honeOf (inside_of_mem_itemsOf hitems hx)
  · exact h.whole.parts_type hp ho

/-! ### The depth that is enough -/

/-- Whether something came out. -/
def isDone : Attempt Schema → Bool
  | .error .tooDeep => false
  | _ => true

theorem isDone_iff {r : Attempt Schema} : isDone r = true ↔ r ≠ .error .tooDeep := by
  rcases r with f | s
  · cases f <;> simp [isDone]
  · simp [isDone]

/-- With one step more nothing changes at any place. -/
def Stable (T : List Place) (n : Nat) : Prop :=
  ∀ p, Within T p → compileAt (n + 1) p = compileAt n p

theorem compileAt_shallow (hq : Shallow q) (n m : Nat) :
    compileAt (n + 1) q = compileAt (m + 1) q := by
  rw [compileAt, compileAt]
  cases ho : outline q with
  | error f => rfl
  | ok o =>
    rw [Attempt.bind_ok rfl, Attempt.bind_ok rfl, hq o ho]
    rfl

/-- Where nothing changes once, nothing changes any more. -/
theorem Stable.succ {n : Nat} (h : Stable T (n + 1)) : Stable T (n + 2) := by
  intro p hp
  rw [compileAt, compileAt]
  cases ho : outline p with
  | error f => rfl
  | ok o =>
    have hparts : ∀ q ∈ o.parts, compileAt (n + 2) q = compileAt (n + 1) q := fun q hq => by
      rcases hp.parts ho q hq with hw | hs
      · exact h q hw
      · exact compileAt_shallow hs _ _
    rw [Attempt.bind_ok rfl, Attempt.bind_ok rfl, Attempt.mapM_congr hparts]

theorem Stable.of_le {n m : Nat} (h : Stable T (n + 1)) (hnm : n ≤ m) : Stable T (m + 1) := by
  induction m, hnm using Nat.le_induction with
  | base => exact h
  | succ m _ ih => exact ih.succ

/-- How many places something comes out at. -/
def done (T : List Place) (n : Nat) : Nat := T.countP fun p => isDone (compileAt n p)

theorem done_le_succ (T : List Place) (n : Nat) : done T n ≤ done T (n + 1) :=
  List.countP_mono_left fun p _ h => by
    rw [compileAt_succ (isDone_iff.1 h)]
    exact h

/-- While something changes, there are more and more places that something comes out at. -/
theorem done_lt_succ {n : Nat} (h : ¬ Stable T n) : done T n < done T (n + 1) := by
  unfold Stable at h
  push Not at h
  obtain ⟨p, hp, hne⟩ := h
  have hbefore : compileAt n p = .error .tooDeep := by
    by_contra hdone
    exact hne (compileAt_succ hdone)
  have hafter : isDone (compileAt (n + 1) p) = true := isDone_iff.2 fun hdeep =>
    hne (hdeep.trans hbefore.symm)
  obtain ⟨before, after, hT⟩ := List.append_of_mem hp.mem
  have hb := done_le_succ before n
  have ha := done_le_succ after n
  unfold done at hb ha ⊢
  rw [hT, List.countP_append, List.countP_append, List.countP_cons_of_pos (p := fun p =>
    isDone (compileAt (n + 1) p)) hafter, List.countP_cons_of_neg (by rw [hbefore]; decide)]
  omega

theorem exists_stable (T : List Place) : ∃ n ≤ T.length, Stable T (n + 1) := by
  by_contra hno
  push Not at hno
  have hgrow : ∀ n ≤ T.length + 1, n ≤ done T (n + 1) := by
    intro n hn
    induction n with
    | zero => exact Nat.zero_le _
    | succ n ih =>
      have := done_lt_succ (hno n (by omega))
      have := ih (by omega)
      omega
  have := hgrow (T.length + 1) (Nat.le_refl _)
  have : done T (T.length + 1 + 1) ≤ T.length := List.countP_le_length
  omega

/-- **Allowing for more depth than there are values changes nothing.** -/
theorem compileAt_stable (v : Value) {n : Nat} (hn : nodes v + 1 ≤ n) :
    compileAt n ⟨[], v⟩ = compileAt (nodes v + 1) ⟨[], v⟩ := by
  obtain ⟨k, hk, hstable⟩ := exists_stable (placesIn [] v)
  rw [length_placesIn] at hk
  induction n, hn using Nat.le_induction with
  | base => rfl
  | succ n hn ih =>
    obtain ⟨m, rfl⟩ : ∃ m, n = m + 1 := ⟨n - 1, by omega⟩
    rw [hstable.of_le (by omega) _ (within_placesIn v), ih]

end SlidePress.Schema
