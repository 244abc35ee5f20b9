import Mathlib.Data.List.Basic
import Mathlib.Order.Nat
import Mathlib.Tactic.SplitIfs
import SlidePress.Proofs.Attempt
import SlidePress.Yaml.Data

/-! # The number of steps

What is built from a document is defined with a number of steps. This module shows that the number
does not matter, once it is large enough: the merging of a mapping opens each name at most once
(`flatten_sound`), and the text of a node is found by going from node to node, so a way that is
longer than the document has nodes comes back to one of them and never ends (`textOf_settles`). In
the first case the result is never that the steps have run out; in the second case this result says
that there is no end.

* `SettlesBy`: from a given number of steps on, the result is the same.
* `unmet`: how many members of a list are still to be met; what carries both inductions. -/

namespace SlidePress.Yaml

open Attempt (bind_eq_ok exists_of_mem_mapM)

/-! ### Results that do not depend on the number of steps -/

/-- From `least` steps on, the result is `r`. -/
def SettlesBy {α : Type} (least : Nat) (f : Nat → α) (r : α) : Prop := ∀ n, least ≤ n → f n = r

/-- With enough steps, the result is `r`. -/
def Settles {α : Type} (f : Nat → α) (r : α) : Prop := ∃ least, SettlesBy least f r

theorem SettlesBy.mono {α : Type} {m n : Nat} {f : Nat → α} {r : α} (h : SettlesBy m f r)
    (hmn : m ≤ n) : SettlesBy n f r := fun k hk => h k (Nat.le_trans hmn hk)

theorem Settles.unique {α : Type} {f : Nat → α} {r s : α} (hr : Settles f r) (hs : Settles f s) :
    r = s := by
  obtain ⟨m, hm⟩ := hr
  obtain ⟨n, hn⟩ := hs
  have h1 : f (m + n) = r := hm (m + n) (Nat.le_add_right m n)
  have h2 : f (m + n) = s := hn (m + n) (Nat.le_add_left n m)
  exact h1.symm.trans h2

/-- The result is settled, and if it is a fault, then that of malformed data. -/
def Sound {α : Type} (least : Nat) (f : Nat → Attempt α) : Prop :=
  ∃ r, SettlesBy least f r ∧ ∀ e, r = .error e → e = .malformedYaml

namespace Sound

variable {α β : Type} {m n : Nat}

theorem ok (a : α) : Sound n fun _ => .ok a := ⟨.ok a, fun _ _ => rfl, fun _ h => by cases h⟩

theorem malformed : Sound n fun _ => (.error .malformedYaml : Attempt α) :=
  ⟨.error .malformedYaml, fun _ _ => rfl, fun _ h => by cases h; rfl⟩

theorem mono {f : Nat → Attempt α} (h : Sound m f) (hmn : m ≤ n) : Sound n f := by
  obtain ⟨r, hr, he⟩ := h
  exact ⟨r, hr.mono hmn, he⟩

/-- One step may be taken first. -/
theorem succ {f : Nat → Attempt α} (h : Sound n fun k => f (k + 1)) : Sound (n + 1) f := by
  obtain ⟨r, hr, he⟩ := h
  refine ⟨r, fun k hk => ?_, he⟩
  obtain ⟨j, rfl⟩ : ∃ j, k = j + 1 := ⟨k - 1, by omega⟩
  exact hr j (by omega)

theorem bind {f : Nat → Attempt α} {g : Nat → α → Attempt β} (hf : Sound n f)
    (hg : ∀ a, Sound n fun k => g k a) : Sound n fun k => f k >>= g k := by
  obtain ⟨r, hr, he⟩ := hf
  cases r with
  | error e =>
    refine ⟨.error e, fun k hk => ?_, fun e' h => ?_⟩
    · show f k >>= g k = _
      rw [hr k hk]
      rfl
    · cases h
      exact he e rfl
  | ok a =>
    obtain ⟨s, hs, he'⟩ := hg a
    refine ⟨s, fun k hk => ?_, he'⟩
    have hbind : (f k >>= g k) = g k a := by rw [hr k hk]; rfl
    exact hbind.trans (hs k hk)

theorem map {f : Nat → Attempt α} (h : Sound n f) (g : α → β) : Sound n fun k => (f k).map g := by
  obtain ⟨r, hr, he⟩ := h
  refine ⟨r.map g, fun k hk => congrArg (Except.map g) (hr k hk), fun e hre => ?_⟩
  cases r with
  | ok a => cases hre
  | error e' =>
    cases hre
    exact he _ rfl

theorem mapM {f : Nat → α → Attempt β} :
    ∀ {xs : List α}, (∀ x ∈ xs, Sound n fun k => f k x) → Sound n fun k => xs.mapM (f k)
  | [], _ => ok []
  | x :: xs, h => by
    have hx : Sound n fun k => f k x := h x List.mem_cons_self
    have hxs : Sound n fun k => xs.mapM (f k) := mapM fun y hy => h y (List.mem_cons_of_mem x hy)
    simp only [List.mapM_cons]
    exact hx.bind fun y => hxs.bind fun ys => ok (y :: ys)

end Sound

/-! ### Meeting the members of a list -/

/-- How many members of `xs` are not among `met`. -/
def unmet {α : Type} [DecidableEq α] (xs met : List α) : Nat := xs.countP fun x => x ∉ met

section

variable {α : Type} [DecidableEq α] {a : α}

theorem unmet_le_length (xs met : List α) : unmet xs met ≤ xs.length := List.countP_le_length

theorem unmet_cons_le (a : α) (xs met : List α) : unmet xs (a :: met) ≤ unmet xs met := by
  refine List.countP_mono_left fun x _ hx => ?_
  simp only [List.mem_cons, decide_eq_true_eq] at hx ⊢
  exact fun h => hx (.inr h)

/-- Who meets a new member has one less to meet. -/
theorem unmet_cons_lt {xs met : List α} (ha : a ∈ xs) (hmet : a ∉ met) :
    unmet xs (a :: met) < unmet xs met := by
  obtain ⟨front, back, rfl⟩ := List.append_of_mem ha
  have hfront : unmet front (a :: met) ≤ unmet front met := unmet_cons_le a front met
  have hback : unmet back (a :: met) ≤ unmet back met := unmet_cons_le a back met
  simp only [unmet, List.countP_append, List.countP_cons] at hfront hback ⊢
  have hnow : decide (a ∉ a :: met) = false := by simp
  have hthen : decide (a ∉ met) = true := by simpa using hmet
  rw [hnow, hthen]
  simp only [Bool.false_eq_true, if_false, if_true]
  omega

end

/-! ### The nodes of a document -/

namespace Node

theorem mem_all (n : Node) : n ∈ n.all := by
  cases n <;> simp [all]

theorem all_subset_allOfItems {i : Node} : ∀ {items : List Node}, i ∈ items → i.all ⊆ allOfItems items
  | _ :: items, h => by
    rw [allOfItems]
    rcases List.mem_cons.1 h with rfl | h
    · exact List.subset_append_left _ _
    · exact List.subset_append_of_subset_right _ (all_subset_allOfItems h)

theorem all_subset_allOfPairs {p : Node × Node} :
    ∀ {pairs : List (Node × Node)}, p ∈ pairs → p.1.all ++ p.2.all ⊆ allOfPairs pairs
  | (k, v) :: pairs, h => by
    rw [allOfPairs]
    rcases List.mem_cons.1 h with rfl | h
    · exact List.subset_append_left _ _
    · exact List.subset_append_of_subset_right _ (all_subset_allOfPairs h)

mutual

/-- A node that is in a node has its own nodes there too. -/
theorem all_subset : ∀ {n m : Node}, m ∈ n.all → m.all ⊆ n.all
  | .scalar .., _, h => by
    obtain rfl := List.mem_singleton.1 h
    exact List.Subset.refl _
  | .alias _, _, h => by
    obtain rfl := List.mem_singleton.1 h
    exact List.Subset.refl _
  | .sequence name line tag items, m, h => by
    rw [all] at h
    rcases List.mem_cons.1 h with rfl | h
    · exact List.Subset.refl _
    · rw [all]
      exact List.subset_cons_of_subset _ (all_subset_of_items h)
  | .mapping name line tag pairs, m, h => by
    rw [all] at h
    rcases List.mem_cons.1 h with rfl | h
    · exact List.Subset.refl _
    · rw [all]
      exact List.subset_cons_of_subset _ (all_subset_of_pairs h)

theorem all_subset_of_items : ∀ {items : List Node} {m : Node}, m ∈ allOfItems items →
    m.all ⊆ allOfItems items
  | [], _, h => by cases h
  | i :: items, m, h => by
    rw [allOfItems] at h ⊢
    rcases List.mem_append.1 h with h | h
    · exact List.subset_append_of_subset_left _ (all_subset h)
    · exact List.subset_append_of_subset_right _ (all_subset_of_items h)

theorem all_subset_of_pairs : ∀ {pairs : List (Node × Node)} {m : Node}, m ∈ allOfPairs pairs →
    m.all ⊆ allOfPairs pairs
  | [], _, h => by cases h
  | (k, v) :: pairs, m, h => by
    rw [allOfPairs] at h ⊢
    rcases List.mem_append.1 h with h | h
    · refine List.subset_append_of_subset_left _ ?_
      rcases List.mem_append.1 h with h | h
      · exact List.subset_append_of_subset_left _ (all_subset h)
      · exact List.subset_append_of_subset_right _ (all_subset h)
    · exact List.subset_append_of_subset_right _ (all_subset_of_pairs h)

end

end Node

namespace Document

variable {d : Document}

/-- A node of the document, or a scalar: what stands in the place of a key that is taken as text is
not written in the document. -/
def Has (d : Document) (n : Node) : Prop := n ∈ d.nodes ∨ ∃ line tag text, n = .scalar line tag text

/-- The names of the collections. -/
def names (d : Document) : List String := d.nodes.filterMap nameOf

theorem length_names_le (d : Document) : d.names.length ≤ d.nodes.length :=
  List.length_filterMap_le nameOf d.nodes

theorem has_root (d : Document) : d.Has d.root :=
  .inl (List.mem_append_left _ d.root.mem_all)

theorem all_subset_nodes {n : Node} (h : n ∈ d.nodes) : n.all ⊆ d.nodes := by
  rcases List.mem_append.1 h with h | h
  · exact List.subset_append_of_subset_left _ (Node.all_subset h)
  · refine List.subset_append_of_subset_right _ fun m hm => ?_
    obtain ⟨a, ha, hn⟩ := List.mem_flatMap.1 h
    exact List.mem_flatMap.2 ⟨a, ha, Node.all_subset hn hm⟩

/-- What an alias stands for is a node of the document. -/
theorem Has.target {n : Node} (h : d.Has n) : d.Has (d.target n) := by
  rcases h with h | ⟨line, tag, text, rfl⟩
  · cases n with
    | «alias» a =>
      show d.Has ((d.anchors.lookup a).getD (.alias a))
      cases hlookup : d.anchors.lookup a with
      | none => exact .inl h
      | some m =>
        obtain ⟨front, back, hanchors, -⟩ := List.lookup_eq_some_iff.1 hlookup
        have hmem : (a, m) ∈ d.anchors := hanchors ▸ List.mem_append_right _ List.mem_cons_self
        exact .inl (List.mem_append_right _ (List.mem_flatMap.2 ⟨(a, m), hmem, m.mem_all⟩))
    | _ => exact .inl h
  · exact .inr ⟨line, tag, text, rfl⟩

theorem Has.item {n i : Node} {name : String} {line : Nat} {tag : Tag} {items : List Node}
    (h : d.Has n) (ht : d.target n = .sequence name line tag items) (hi : i ∈ items) : d.Has i := by
  have hseq : d.Has (.sequence name line tag items) := ht ▸ h.target
  rcases hseq with hseq | ⟨_, _, _, hseq⟩
  · refine .inl (all_subset_nodes hseq ?_)
    rw [Node.all]
    exact List.mem_cons_of_mem _ (Node.all_subset_allOfItems hi i.mem_all)
  · cases hseq

theorem Has.pair {n : Node} {p : Node × Node} {name : String} {line : Nat} {tag : Tag}
    {pairs : List (Node × Node)} (h : d.Has n) (ht : d.target n = .mapping name line tag pairs)
    (hp : p ∈ pairs) : d.Has p.1 ∧ d.Has p.2 := by
  have hmap : d.Has (.mapping name line tag pairs) := ht ▸ h.target
  rcases hmap with hmap | ⟨_, _, _, hmap⟩
  · have hall : p.1.all ++ p.2.all ⊆ d.nodes := fun m hm => by
      refine all_subset_nodes hmap ?_
      rw [Node.all]
      exact List.mem_cons_of_mem _ (Node.all_subset_allOfPairs hp hm)
    exact ⟨.inl (hall (List.mem_append_left _ p.1.mem_all)),
      .inl (hall (List.mem_append_right _ p.2.mem_all))⟩
  · cases hmap

/-- A collection of the document has one of its names. -/
theorem Has.name_mem {n : Node} {name : String} (h : d.Has n) (hn : nameOf (d.target n) = some name) :
    name ∈ d.names := by
  rcases h.target with h | ⟨_, _, _, h⟩
  · exact List.mem_filterMap.2 ⟨_, h, hn⟩
  · rw [h] at hn
    cases hn

/-! ### Merging -/

/-- Pairs of nodes of the document. -/
def HasAll (d : Document) (pairs : List (Node × Node)) : Prop :=
  ∀ p ∈ pairs, d.Has p.1 ∧ d.Has p.2

theorem HasAll.plain {pairs : List (Node × Node)} (h : d.HasAll pairs) :
    d.HasAll ((pairs.filter fun p => d.tagOf p.1 != .merge).map fun p => (d.plainKey p.1, p.2)) := by
  intro q hq
  obtain ⟨p, hp, rfl⟩ := List.mem_map.1 hq
  obtain ⟨hkey, hvalue⟩ := h p (List.mem_of_mem_filter hp)
  refine ⟨?_, hvalue⟩
  dsimp only
  unfold plainKey
  split
  · exact .inr ⟨_, _, _, rfl⟩
  · exact hkey

theorem hasAll_flatten {parts : List (List (Node × Node))} (h : ∀ ps ∈ parts, d.HasAll ps) :
    d.HasAll parts.flatten := by
  intro p hp
  obtain ⟨ps, hps, hp⟩ := List.mem_flatten.1 hp
  exact h ps hps p hp

/-- What is merged are pairs of the document. -/
theorem merging_hasAll (n : Nat) :
    (∀ opened pairs ps, d.HasAll pairs → d.flatten n opened pairs = .ok ps → d.HasAll ps) ∧
    (∀ opened v ps, d.Has v → d.mergeFrom n opened v = .ok ps → d.HasAll ps) ∧
    ∀ opened name pairs ps, d.HasAll pairs → d.flattenNamed n opened name pairs = .ok ps →
      d.HasAll ps := by
  -- each of the three functions calls another one with a step less, so they go up together
  induction n with
  | zero =>
    refine ⟨fun _ _ _ _ h => ?_, fun _ _ _ _ h => ?_, fun _ _ _ _ _ h => ?_⟩ <;> cases h
  | succ n ih =>
    obtain ⟨hflatten, hmerge, hnamed⟩ := ih
    have hmapping : ∀ {v name line tag pairs opened ps}, d.Has v →
        d.target v = .mapping name line tag pairs →
        d.flattenNamed n opened name pairs = .ok ps → d.HasAll ps :=
      fun hv ht h => hnamed _ _ _ _ (fun p hp => hv.pair ht hp) h
    refine ⟨fun opened pairs ps hpairs h => ?_, fun opened v ps hv h => ?_,
      fun opened name pairs ps hpairs h => ?_⟩
    · rw [flatten] at h
      obtain ⟨merged, hmerged, h⟩ := bind_eq_ok.1 h
      cases h
      have hall : d.HasAll merged.flatten := by
        refine hasAll_flatten fun qs hqs => ?_
        obtain ⟨p, hp, hp'⟩ := exists_of_mem_mapM hmerged hqs
        exact hmerge opened p.2 qs (hpairs p (List.mem_of_mem_filter hp)).2 hp'
      intro p hp
      rcases List.mem_append.1 hp with hp | hp
      · exact hall p hp
      · exact hpairs.plain p hp
    · rw [mergeFrom] at h
      cases ht : d.target v with
      | mapping name line tag pairs =>
        rw [ht] at h
        exact hmapping hv ht h
      | sequence name line tag items =>
        rw [ht] at h
        obtain ⟨parts, hparts, h⟩ := bind_eq_ok.1 h
        cases h
        refine hasAll_flatten fun qs hqs => ?_
        obtain ⟨i, hi, hqs⟩ := exists_of_mem_mapM hparts (List.mem_reverse.1 hqs)
        have hi : d.Has i := hv.item ht hi
        cases hti : d.target i with
        | mapping name line tag pairs =>
          rw [hti] at hqs
          exact hmapping hi hti hqs
        | _ =>
          rw [hti] at hqs
          cases hqs
      | _ =>
        rw [ht] at h
        cases h
    · rw [flattenNamed] at h
      split at h
      · cases h
        exact hpairs.plain
      · exact hflatten _ _ _ hpairs h

/-- **Merging is settled** after three steps for each name that is not opened yet. -/
theorem merging_sound (k : Nat) : ∀ opened : List String, unmet d.names opened ≤ k →
    (∀ name pairs, name ∈ d.names → d.HasAll pairs →
      Sound (3 * k + 1) fun n => d.flattenNamed n opened name pairs) ∧
    (∀ v, d.Has v → Sound (3 * k + 2) fun n => d.mergeFrom n opened v) ∧
    ∀ pairs, d.HasAll pairs → Sound (3 * k + 3) fun n => d.flatten n opened pairs := by
  induction k using Nat.strongRecOn with
  | _ k ih =>
    intro opened hopened
    have hnamed : ∀ name pairs, name ∈ d.names → d.HasAll pairs →
        Sound (3 * k + 1) fun n => d.flattenNamed n opened name pairs := by
      intro name pairs hname hpairs
      refine Sound.succ (f := fun n => d.flattenNamed n opened name pairs) ?_
      simp only [flattenNamed]
      by_cases hin : name ∈ opened
      · simp only [List.contains_iff_mem.2 hin, if_true]
        exact .ok _
      · have hless : unmet d.names (name :: opened) < unmet d.names opened :=
          unmet_cons_lt hname hin
        have hnot : opened.contains name = false := by simpa using hin
        simp only [hnot, Bool.false_eq_true, if_false]
        obtain ⟨-, -, hflatten⟩ := ih (unmet d.names (name :: opened)) (by omega) _ le_rfl
        exact (hflatten pairs hpairs).mono (by omega)
    have hmerge : ∀ v, d.Has v → Sound (3 * k + 2) fun n => d.mergeFrom n opened v := by
      intro v hv
      refine Sound.succ (f := fun n => d.mergeFrom n opened v) ?_
      simp only [mergeFrom]
      have hmapping : ∀ {w name line tag pairs}, d.Has w →
          d.target w = .mapping name line tag pairs →
          Sound (3 * k + 1) fun n => d.flattenNamed n opened name pairs := by
        intro w name line tag pairs hw ht
        exact hnamed name pairs (hw.name_mem (by rw [ht]; rfl)) fun p hp => hw.pair ht hp
      cases ht : d.target v with
      | mapping name line tag pairs => exact hmapping hv ht
      | sequence name line tag items =>
        refine Sound.bind (Sound.mapM fun i hi => ?_) fun parts => .ok _
        have hi : d.Has i := hv.item ht hi
        cases hti : d.target i with
        | mapping name line tag pairs => exact hmapping hi hti
        | _ => exact .malformed
      | _ => exact .malformed
    have hflatten : ∀ pairs, d.HasAll pairs →
        Sound (3 * k + 3) fun n => d.flatten n opened pairs := by
      intro pairs hpairs
      refine Sound.succ (f := fun n => d.flatten n opened pairs) ?_
      simp only [flatten]
      refine Sound.bind (Sound.mapM fun p hp => hmerge p.2 ?_) fun merged => .ok _
      exact (hpairs p (List.mem_of_mem_filter hp)).2
    exact ⟨hnamed, hmerge, hflatten⟩

/-- The pairs of a mapping with those under its merge keys in front, after enough steps. -/
theorem flatten_sound (opened : List String) {pairs : List (Node × Node)} (h : d.HasAll pairs) :
    Sound (3 * d.nodes.length + 3) fun n => d.flatten n opened pairs := by
  have hcount : unmet d.names opened ≤ d.nodes.length :=
    (unmet_le_length d.names opened).trans d.length_names_le
  exact (merging_sound d.nodes.length opened hcount).2.2 pairs h

/-! ### The text of a node -/

/-- The node whose text is that of a mapping, if it has one. -/
def standIn (d : Document) (n : Node) : Option Node :=
  match d.target n with
  | .mapping _ _ _ pairs => (pairs.find? fun p => d.tagOf p.1 == .value).map Prod.snd
  | _ => none

theorem textOf_succ_of_some {n m : Node} (h : d.standIn n = some m) (k : Nat) :
    d.textOf (k + 1) n = d.textOf k m := by
  unfold standIn at h
  rw [textOf]
  cases ht : d.target n with
  | mapping name line tag pairs =>
    rw [ht] at h
    obtain ⟨p, hp, rfl⟩ := Option.map_eq_some_iff.1 h
    simp only [hp]
  | _ =>
    rw [ht] at h
    cases h

/-- A node without a stand-in has its text after one step, or none at all. -/
theorem textOf_succ_of_none {n : Node} (h : d.standIn n = none) (j k : Nat) :
    d.textOf (j + 1) n = d.textOf (k + 1) n := by
  unfold standIn at h
  rw [textOf, textOf]
  cases ht : d.target n with
  | mapping name line tag pairs =>
    rw [ht] at h
    have hnone : (pairs.find? fun p => d.tagOf p.1 == .value) = none := Option.map_eq_none_iff.1 h
    simp only [hnone]
  | _ => rfl

theorem Has.standIn {n m : Node} (h : d.Has n) (hm : d.standIn n = some m) : d.Has m := by
  unfold Document.standIn at hm
  cases ht : d.target n with
  | mapping name line tag pairs =>
    rw [ht] at hm
    obtain ⟨p, hp, rfl⟩ := Option.map_eq_some_iff.1 hm
    exact (h.pair ht (List.mem_of_find?_eq_some hp)).2
  | _ =>
    rw [ht] at hm
    cases hm

theorem textOf_antitone {k : Nat} {n : Node} (h : d.textOf (k + 1) n = .error .tooDeep) :
    d.textOf k n = .error .tooDeep := by
  induction k generalizing n with
  | zero => rfl
  | succ k ih =>
    cases hm : d.standIn n with
    | none => rw [textOf_succ_of_none hm k (k + 1), h]
    | some m =>
      rw [textOf_succ_of_some hm] at h ⊢
      exact ih h

theorem textOf_of_add {n : Node} (b : Nat) : ∀ {a : Nat}, d.textOf (b + a) n = .error .tooDeep →
    d.textOf b n = .error .tooDeep
  | 0, h => h
  | _ + 1, h => textOf_of_add b (textOf_antitone h)

/-- A node that comes back to itself has no end. -/
theorem textOf_of_loop {n : Node} {j : Nat} (h : ∀ k, d.textOf (k + j + 1) n = d.textOf k n)
    (k : Nat) : d.textOf k n = .error .tooDeep := by
  have hround : ∀ i, d.textOf (i * (j + 1)) n = .error .tooDeep := by
    intro i
    induction i with
    | zero =>
      rw [Nat.zero_mul]
      rfl
    | succ i ih =>
      rw [Nat.succ_mul, ← Nat.add_assoc, h, ih]
  have hle : k ≤ k * (j + 1) := Nat.le_mul_of_pos_right k (Nat.succ_pos j)
  obtain ⟨a, ha⟩ := Nat.exists_eq_add_of_le hle
  exact textOf_of_add k (ha ▸ hround k)

open Classical in
/-- The way to the text of a node: `met` are the nodes that led to it. -/
theorem exists_settlesBy_textOf (k : Nat) : ∀ (met : List Node) (n : Node),
    unmet d.nodes met ≤ k → d.Has n →
    (∀ m ∈ met, ∃ j, ∀ i, d.textOf (i + j + 1) m = d.textOf i n) →
      ∃ r, SettlesBy (k + 1) (fun i => d.textOf i n) r := by
  induction k using Nat.strongRecOn with
  | _ k ih =>
    intro met n hmet hn hlead
    cases hm : d.standIn n with
    | none =>
      refine ⟨d.textOf 1 n, fun i hi => ?_⟩
      obtain ⟨i, rfl⟩ : ∃ j, i = j + 1 := ⟨i - 1, by omega⟩
      exact textOf_succ_of_none hm i 0
    | some m =>
      by_cases hin : n ∈ met
      · obtain ⟨j, hj⟩ := hlead n hin
        exact ⟨_, fun i _ => textOf_of_loop hj i⟩
      · have hnodes : n ∈ d.nodes := by
          rcases hn with hn | ⟨_, _, _, rfl⟩
          · exact hn
          · cases hm
        have hless : unmet d.nodes (n :: met) < unmet d.nodes met := unmet_cons_lt hnodes hin
        have hahead : ∀ l ∈ n :: met, ∃ j, ∀ i, d.textOf (i + j + 1) l = d.textOf i m := by
          intro l hl
          rcases List.mem_cons.1 hl with rfl | hl
          · exact ⟨0, fun i => textOf_succ_of_some hm i⟩
          · obtain ⟨j, hj⟩ := hlead l hl
            refine ⟨j + 1, fun i => ?_⟩
            rw [← textOf_succ_of_some hm i, ← hj (i + 1)]
            congr 1
            omega
        obtain ⟨r, hr⟩ := ih _ (by omega) (n :: met) m le_rfl (hn.standIn hm) hahead
        refine ⟨r, fun i hi => ?_⟩
        obtain ⟨i, rfl⟩ : ∃ j, i = j + 1 := ⟨i - 1, by omega⟩
        exact (textOf_succ_of_some hm i).trans (hr i (by omega))

/-- **The text of a node is settled** after one step for each node. That it needs too many steps
then says that there is no end. -/
theorem textOf_settles {n : Node} (h : d.Has n) :
    ∃ r, SettlesBy (d.nodes.length + 1) (fun k => d.textOf k n) r := by
  classical
  refine exists_settlesBy_textOf d.nodes.length [] n (unmet_le_length _ _) h ?_
  exact fun m hm => absurd hm List.not_mem_nil

end Document

end SlidePress.Yaml
