import Mathlib.Data.List.Forall2
import Mathlib.Tactic.SplitIfs
import SlidePress.Proofs.Attempt
import SlidePress.Yaml.Data

/-! # Where the data of a document comes from

If the value of a node could be built, then its children could, and the value is made of theirs
(`Built`). For a mapping the children are the keys and values of its pairs with the merged pairs in
front. More steps for the merging than were needed do not change its result (`flatten_succ`). -/

namespace SlidePress

/-- A value that holds no others. -/
def Value.Atomic : Value → Prop
  | .list _ | .tuple _ | .set _ | .map _ | .again _ _ => False
  | _ => True

namespace Yaml

open Attempt (bind_eq_ok map_eq_ok mapM_eq_ok)

namespace Build

variable {α : Type}

theorem first_eq_none {es : List (Nat × Fault)} : first es = none ↔ es = [] := by
  cases es with
  | nil => simp [first]
  | cons e es =>
    refine iff_of_false ?_ (List.cons_ne_nil e es)
    rw [first]
    split
    · split <;> exact Option.some_ne_none _
    · exact Option.some_ne_none _

theorem faults_eq_nil : ∀ {rs : List (Build α)}, faults rs = [] → ∃ as : List α, rs = as.map .ok
  | [], _ => ⟨[], rfl⟩
  | .ok a :: rs, h => by
    obtain ⟨as, rfl⟩ := faults_eq_nil (show faults rs = [] from h)
    exact ⟨a :: as, rfl⟩
  | .error e :: rs, h => by cases h

theorem all_map_ok (as : List α) : all (as.map (.ok : α → Build α)) = .ok as := by
  have hfaults : faults (as.map (.ok : α → Build α)) = [] := by
    induction as with
    | nil => rfl
    | cons a as ih => exact ih
  rw [all, hfaults]
  show Except.ok _ = _
  rw [List.filterMap_map]
  exact congrArg _ List.filterMap_some

/-- Several builds succeed together exactly if each of them does. -/
theorem all_eq_ok {rs : List (Build α)} {as : List α} : all rs = .ok as ↔ rs = as.map .ok := by
  constructor
  · intro h
    have hf : faults rs = [] := by
      rw [← first_eq_none]
      unfold all at h
      split at h
      · cases h
      · assumption
    obtain ⟨as', rfl⟩ := faults_eq_nil hf
    rw [all_map_ok] at h
    cases h
    rfl
  · rintro rfl
    exact all_map_ok as

theorem atLevel_eq_ok {level : Nat} {r : Attempt α} {a : α} :
    atLevel level r = .ok a ↔ r = .ok a := by
  cases r <;> simp [atLevel]

end Build

namespace Document

variable {d : Document}

/-! ### Merging -/

/-- One more step changes nothing where the steps were enough. -/
theorem merging_succ (n : Nat) :
    (∀ opened pairs ps, d.flatten n opened pairs = .ok ps →
      d.flatten (n + 1) opened pairs = .ok ps) ∧
    (∀ opened v ps, d.mergeFrom n opened v = .ok ps → d.mergeFrom (n + 1) opened v = .ok ps) ∧
    ∀ opened name pairs ps, d.flattenNamed n opened name pairs = .ok ps →
      d.flattenNamed (n + 1) opened name pairs = .ok ps := by
  -- the three call one another with one step less, so the statements go up together
  induction n with
  | zero =>
    refine ⟨fun _ _ _ h => ?_, fun _ _ _ h => ?_, fun _ _ _ _ h => ?_⟩ <;> cases h
  | succ n ih =>
    obtain ⟨hflatten, hmerge, hnamed⟩ := ih
    refine ⟨fun opened pairs ps h => ?_, fun opened v ps h => ?_, fun opened name pairs ps h => ?_⟩
    · rw [flatten] at h ⊢
      obtain ⟨merged, hm, h⟩ := bind_eq_ok.1 h
      refine bind_eq_ok.2 ⟨merged, mapM_eq_ok.2 ?_, h⟩
      exact (mapM_eq_ok.1 hm).imp fun p qs hp => hmerge opened p.2 qs hp
    · rw [mergeFrom] at h ⊢
      split at h
      · exact hnamed _ _ _ _ h
      · obtain ⟨parts, hp, h⟩ := bind_eq_ok.1 h
        refine bind_eq_ok.2 ⟨parts, mapM_eq_ok.2 ?_, h⟩
        refine (mapM_eq_ok.1 hp).imp fun i qs hi => ?_
        split at hi
        · exact hnamed _ _ _ _ hi
        · cases hi
      · cases h
    · rw [flattenNamed] at h ⊢
      split_ifs at h ⊢
      · exact h
      · exact hflatten _ _ _ h

theorem flatten_succ {n : Nat} {opened : List String} {pairs ps : List (Node × Node)}
    (h : d.flatten n opened pairs = .ok ps) : d.flatten (n + 1) opened pairs = .ok ps :=
  (merging_succ n).1 opened pairs ps h

/-! ### Scalars -/

theorem timeOf_atomic {s : String} {v : Value} (h : timeOf s = .ok v) : v.Atomic := by
  unfold timeOf at h
  obtain ⟨p, -, h⟩ := bind_eq_ok.1 h
  split at h
  · obtain ⟨date, -, rfl⟩ := map_eq_ok.1 h
    trivial
  · obtain ⟨date, -, h⟩ := bind_eq_ok.1 h
    obtain ⟨t, -, rfl⟩ := map_eq_ok.1 h
    trivial

theorem scalarOf_atomic {tag : Tag} {s : String} {v : Value} (h : scalarOf tag s = .ok v) :
    v.Atomic := by
  cases tag with
  | null | str =>
    cases h
    trivial
  | bool | int | float | binary =>
    obtain ⟨a, -, rfl⟩ := map_eq_ok.1 h
    trivial
  | timestamp => exact timeOf_atomic h
  | _ => cases h

/-! ### Collections -/

/-- The pairs of a mapping and what was built from them. -/
theorem forall₂_pairUp {f g : Node → Build Value} :
    ∀ {pairs : List (Node × Node)} {parts : List Value},
      (pairs.flatMap fun p => [f p.1, g p.2]) = parts.map .ok →
        List.Forall₂ (fun p e => f p.1 = .ok e.1 ∧ g p.2 = .ok e.2) pairs (pairUp parts)
  | [], parts, h => by
    obtain rfl : parts = [] := List.map_eq_nil_iff.1 h.symm
    exact .nil
  | p :: pairs, [], h => by cases h
  | p :: pairs, [k], h => by simp at h
  | p :: pairs, k :: v :: parts, h => by
    simp only [List.flatMap_cons, List.cons_append, List.nil_append, List.map_cons,
      List.cons.injEq] at h
    exact .cons ⟨h.1, h.2.1⟩ (forall₂_pairUp h.2.2)

theorem buildEntries_eq_ok {level : Nat} {child : Node → Build Value} {pairs : List (Node × Node)}
    {es : Entries} (h : d.buildEntries level child pairs = .ok es) :
    ∃ kvs, List.Forall₂ (fun p e => d.buildKey level child p.1 = .ok e.1 ∧ child p.2 = .ok e.2)
      pairs kvs ∧ es = Entries.ofPairs kvs := by
  obtain ⟨parts, hparts, h⟩ := bind_eq_ok.1 h
  cases h
  exact ⟨pairUp parts, forall₂_pairUp (Build.all_eq_ok.1 hparts), rfl⟩

/-- The pairs of a sequence of pairs are built one for one. -/
theorem buildPairs_eq_ok {level : Nat} {child : Node → Build Value} {items : List Node}
    {xs : List Value} (h : d.buildPairs level child items = .ok xs) :
    xs.length = items.length ∧ ∀ x ∈ xs, ∃ k v, x = .tuple [k, v] := by
  obtain ⟨parts, hparts, h⟩ := bind_eq_ok.1 h
  cases h
  refine ⟨?_, fun x hx => ?_⟩
  · rw [List.length_map]
    replace hparts := Build.all_eq_ok.1 hparts
    clear h
    induction items generalizing parts with
    | nil =>
      obtain rfl : parts = [] := List.map_eq_nil_iff.1 hparts.symm
      rfl
    | cons i items ih =>
      rw [List.flatMap_cons] at hparts
      split at hparts
      · match parts, hparts with
        | [], hparts | [k], hparts => simp at hparts
        | k :: v :: parts, hparts =>
          simp only [List.cons_append, List.nil_append, List.map_cons, List.cons.injEq] at hparts
          rw [pairUp, List.length_cons, List.length_cons, ih parts hparts.2.2]
      · cases parts <;> simp [misfit] at hparts
  · obtain ⟨e, -, rfl⟩ := List.mem_map.1 hx
    exact ⟨e.1, e.2, rfl⟩

/-- How the value of a node is made of those of its children. -/
inductive Built (d : Document) (fuel level : Nat) (child : Node → Build Value) (node : Node) :
    Value → Prop
  | list {a : String} {line : Nat} {tag : Tag} {items : List Node} {xs : List Value} :
    d.target node = .sequence a line tag items → items.map child = xs.map .ok →
      Built d fuel level child node (.list xs)
  | map {a : String} {line : Nat} {tag : Tag} {pairs ps : List (Node × Node)}
      {es : Entries} :
    d.tagOf node = .map → d.target node = .mapping a line tag pairs →
      d.flatten fuel [a] pairs = .ok ps → d.buildEntries level child ps = .ok es →
      Built d fuel level child node (.map es)
  | set {a : String} {line : Nat} {tag : Tag} {pairs ps : List (Node × Node)}
      {es : Entries} :
    d.target node = .mapping a line tag pairs → d.flatten fuel [a] pairs = .ok ps →
      d.buildEntries level child ps = .ok es → Built d fuel level child node (.set (es.map Prod.fst))
  | pairs {a : String} {line : Nat} {tag : Tag} {items : List Node} {xs : List Value} :
    d.target node = .sequence a line tag items → d.buildPairs level child items = .ok xs →
      Built d fuel level child node (.list xs)
  | scalar {s : String} {v : Value} : (d.tagOf node).isCollection = false →
    d.textOf fuel node = .ok s → scalarOf (d.tagOf node) s = .ok v →
      Built d fuel level child node v

/-- **A node that was built** was built from its children. -/
theorem built_of_buildStep {fuel level : Nat} {child : Node → Build Value} {node : Node} {v : Value}
    (h : d.buildStep fuel level child node = .ok v) : Built d fuel level child node v := by
  unfold buildStep at h
  dsimp only at h
  split at h
  · rename_i htarget
    obtain ⟨xs, hxs, h⟩ := bind_eq_ok.1 h
    cases h
    exact .list htarget (Build.all_eq_ok.1 hxs)
  · rename_i htag htarget
    obtain ⟨ps, hps, h⟩ := bind_eq_ok.1 h
    obtain ⟨es, hes, h⟩ := bind_eq_ok.1 h
    cases h
    exact .map htag htarget (Build.atLevel_eq_ok.1 hps) hes
  · rename_i htarget
    obtain ⟨ps, hps, h⟩ := bind_eq_ok.1 h
    obtain ⟨es, hes, h⟩ := bind_eq_ok.1 h
    cases h
    exact .set htarget (Build.atLevel_eq_ok.1 hps) hes
  · rename_i htarget
    obtain ⟨xs, hxs, h⟩ := bind_eq_ok.1 h
    cases h
    exact .pairs htarget hxs
  · rename_i htarget
    obtain ⟨xs, hxs, h⟩ := bind_eq_ok.1 h
    cases h
    exact .pairs htarget hxs
  · split at h
    · cases h
    · rename_i hcollection
      split at h
      · cases h
      · obtain ⟨s, hs, hv⟩ := bind_eq_ok.1 (Build.atLevel_eq_ok.1 h)
        exact .scalar (by simpa using hcollection) hs hv

/-- **Building a node** either meets a collection inside itself or takes one step. -/
theorem build_succ_eq_ok {fuel level : Nat} {opened : List (Option String)} {node : Node}
    {v : Value} (h : d.build (fuel + 1) opened level node = .ok v) :
    (∃ up isMap, v = .again up isMap) ∨
      Built d fuel level (d.build fuel (nameOf (d.target node) :: opened) (level + 1)) node v := by
  rw [build] at h
  split at h
  · cases h
    exact .inl ⟨_, _, rfl⟩
  · exact .inr (built_of_buildStep h)

/-- A key is never a mapping. -/
theorem ne_map_of_buildKey {fuel level level' : Nat} {opened : List (Option String)} {k : Node}
    {v : Value} (h : d.buildKey level' (d.build fuel opened level) k = .ok v) (es : Entries) :
    v ≠ .map es := by
  unfold buildKey at h
  split at h
  · cases h
  rename_i hcollection
  cases fuel with
  | zero => cases h
  | succ fuel =>
    rintro rfl
    rcases build_succ_eq_ok h with ⟨_, _, h⟩ | h
    · cases h
    · cases h with
      | map htag => exact hcollection (by rw [htag]; rfl)
      | scalar _ _ hv => exact scalarOf_atomic hv

end Document

end Yaml

end SlidePress
