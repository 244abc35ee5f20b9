import Mathlib.Data.List.Perm.Basic
import Mathlib.Data.String.Basic
import Mathlib.Tactic.SplitIfs
import SlidePress.Proofs.Attempt
import SlidePress.Value.Order

/-! # Sorting by keys

Keys of one kind can always be compared, and then sorting by them succeeds: nothing is lost, the keys
ascend, and items with equal keys keep their places (`exists_sortOn`). Items are inserted one after
the other behind all items whose keys do not come after their own, so one insertion puts an item that
stands last in its place (`exists_insertOn`). -/

namespace SlidePress.Value

variable {α κ : Type} [LinearOrder κ]

/-- A list put in the order of its keys, where items with equal keys keep their places. -/
structure StablySorted (key : α → κ) (xs ys : List α) : Prop where
  perm : ys.Perm xs
  sorted : ys.Pairwise fun a b => key a ≤ key b
  stable : ∀ k, ys.filter (key · = k) = xs.filter (key · = k)

/-- The values that stand for keys are compared as the keys are. -/
def Compares (value : κ → Value) : Prop := ∀ k l, less (value k) (value l) = .ok (decide (k < l))

theorem compares_str : Compares str := by
  intro s t
  have hcompare : less (str s) (str t) = .ok (some (compareText s t) == some .lt) := rfl
  rw [hcompare, compareText]
  split_ifs with heq hlt
  · subst heq
    simp
  · simp [hlt]
  · simp [hlt]

theorem compares_int : Compares int := by
  intro m n
  have hcompare : less (int m) (int n) = .ok (some (Ord.compare m n) == some .lt) := rfl
  rw [hcompare]
  by_cases h : m < n
  · simp [h, Int.compare_eq_lt]
  · simp [h, Int.compare_eq_lt]

variable {key : α → κ} {value : κ → Value}

/-- An item with its key in front. -/
def keyed (key : α → κ) (value : κ → Value) (x : α) : Value × α := (value (key x), x)

/-- **One insertion** puts an item behind all items in its place. -/
theorem exists_insertOn (hv : Compares value) (e : α) :
    ∀ {xs : List α}, (xs.Pairwise fun a b => key a ≤ key b) →
      ∃ ys, insertOn (keyed key value e) (xs.map (keyed key value)) = .ok (ys.map (keyed key value)) ∧
        StablySorted key (xs ++ [e]) ys
  | [], _ => ⟨[e], rfl, .refl _, List.pairwise_singleton _ _, fun _ => rfl⟩
  | x :: xs, hs => by
    obtain ⟨hx, hxs⟩ := List.pairwise_cons.1 hs
    have hless : less (keyed key value e).1 (keyed key value x).1 = .ok (decide (key e < key x)) :=
      hv _ _
    rw [List.map_cons, insertOn, Attempt.bind_ok hless]
    by_cases he : key e < key x
    · refine ⟨e :: x :: xs, by rw [decide_eq_true he]; rfl, ?_, ?_, fun k => ?_⟩
      · exact (List.perm_append_singleton e (x :: xs)).symm
      · refine List.pairwise_cons.2 ⟨fun y hy => ?_, hs⟩
        rcases List.mem_cons.1 hy with rfl | hy
        · exact he.le
        · exact he.le.trans (hx y hy)
      · -- no item in the list has the key of the new one, which is less than all of theirs
        by_cases hk : key e = k
        · have hnone : (x :: xs).filter (key · = k) = [] := by
            refine List.filter_eq_nil_iff.2 fun y hy => ?_
            have hlt : key e < key y := by
              rcases List.mem_cons.1 hy with rfl | hy
              · exact he
              · exact he.trans_le (hx y hy)
            simpa [← hk] using hlt.ne'
          rw [List.filter_append, hnone, List.filter_cons_of_pos (by simpa using hk), hnone,
            List.filter_cons_of_pos (by simpa using hk)]
          rfl
        · rw [List.filter_append, List.filter_cons_of_neg (by simpa using hk),
            List.filter_cons_of_neg (a := e) (by simpa using hk), List.filter_nil, List.append_nil]
    · obtain ⟨ys, hys, h⟩ := exists_insertOn hv e hxs
      refine ⟨x :: ys, ?_, h.perm.cons x, ?_, fun k => ?_⟩
      · rw [decide_eq_false he, Attempt.bind_ok hys]
        rfl
      · refine List.pairwise_cons.2 ⟨fun y hy => ?_, h.sorted⟩
        rcases List.mem_append.1 (h.perm.mem_iff.1 hy) with hy | hy
        · exact hx y hy
        · rw [List.mem_singleton.1 hy]
          exact le_of_not_gt he
      · rw [List.cons_append, List.filter_cons, List.filter_cons, h.stable]

theorem exists_foldlM_insertOn (hv : Compares value) :
    ∀ (xs : List α) {got : List α}, (got.Pairwise fun a b => key a ≤ key b) →
      ∃ ys, (xs.map (keyed key value)).foldlM (fun got e => insertOn e got)
          (got.map (keyed key value)) = .ok (ys.map (keyed key value)) ∧
        StablySorted key (got ++ xs) ys
  | [], got, hs => ⟨got, rfl, by simp, hs, by simp⟩
  | x :: xs, got, hs => by
    obtain ⟨next, hnext, h⟩ := exists_insertOn hv x hs
    obtain ⟨ys, hys, h'⟩ := exists_foldlM_insertOn hv xs h.sorted
    refine ⟨ys, ?_, ?_, h'.sorted, fun k => ?_⟩
    · rw [List.map_cons, List.foldlM_cons, Attempt.bind_ok hnext, hys]
    · refine h'.perm.trans ((h.perm.append_right xs).trans ?_)
      rw [List.append_assoc, List.singleton_append]
    · rw [h'.stable, List.filter_append, h.stable, ← List.filter_append, List.append_assoc,
        List.singleton_append]

/-- **Sorting by keys of one kind** succeeds and is stable. -/
theorem exists_sortOn (key : α → κ) (hv : Compares value) (xs : List α) :
    ∃ ys, sortOn (xs.map (keyed key value)) = .ok ys ∧ StablySorted key xs ys := by
  have hnil : ([] : List α).Pairwise fun a b => key a ≤ key b := .nil
  obtain ⟨ys, hys, h⟩ := exists_foldlM_insertOn hv xs hnil
  refine ⟨ys, ?_, h⟩
  rw [List.map_nil] at hys
  have hsnd : (ys.map (keyed key value)).map Prod.snd = ys := by
    rw [List.map_map]
    exact List.map_id ys
  rw [sortOn, Attempt.bind_ok hys, hsnd]
  rfl

end SlidePress.Value
