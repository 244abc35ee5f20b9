import Mathlib.Data.List.Induction
import Mathlib.Data.List.Nodup

/-! # Lists without repetitions

`List.eraseDups` keeps of equal members the first. Nothing occurs twice in what it leaves
(`nodup_eraseDups`), and the members stand in the order in which they came up first
(`pairwise_idxOf_eraseDups`). -/

namespace SlidePress

variable {α : Type} [BEq α]

theorem isEmpty_eraseDups {as : List α} (h : as ≠ []) : as.eraseDups.isEmpty = false := by
  obtain ⟨a, as, rfl⟩ := List.exists_cons_of_ne_nil h
  rw [List.eraseDups_cons]
  rfl

variable [LawfulBEq α]

theorem eraseDups_removeAll (a : α) (as : List α) :
    ([a].removeAll as).eraseDups = if a ∈ as then [] else [a] := by
  by_cases h : a ∈ as <;> simp [List.removeAll, h, List.eraseDups_cons]

/-- One more member is kept if it has not come up before. -/
theorem eraseDups_append_singleton (as : List α) (a : α) :
    (as ++ [a]).eraseDups = as.eraseDups ++ if a ∈ as then [] else [a] := by
  rw [List.eraseDups_append, eraseDups_removeAll]

theorem nodup_eraseDups (as : List α) : as.eraseDups.Nodup := by
  induction as using List.reverseRecOn with
  | nil => exact List.nodup_nil
  | append_singleton as a ih =>
    rw [eraseDups_append_singleton]
    split_ifs with h
    · rwa [List.append_nil]
    · refine List.nodup_append'.2 ⟨ih, List.nodup_singleton _, List.disjoint_singleton.2 ?_⟩
      rwa [List.mem_eraseDups]

theorem eraseDups_of_nodup {as : List α} (h : as.Nodup) : as.eraseDups = as := by
  induction as using List.reverseRecOn with
  | nil => rfl
  | append_singleton as a ih =>
    obtain ⟨has, -, hdisjoint⟩ := List.nodup_append'.1 h
    rw [eraseDups_append_singleton, if_neg (List.disjoint_singleton.1 hdisjoint), ih has]

/-- **What is left** stands in the order in which it came up first. -/
theorem pairwise_idxOf_eraseDups (as : List α) :
    as.eraseDups.Pairwise fun a b => as.idxOf a < as.idxOf b := by
  induction as using List.reverseRecOn with
  | nil => exact .nil
  | append_singleton as a ih =>
    -- behind its end a list has no place at which a member of it comes up first
    have hkept {b : α} (hb : b ∈ as.eraseDups) : (as ++ [a]).idxOf b = as.idxOf b :=
      List.idxOf_append_of_mem (List.mem_eraseDups.1 hb)
    have hleft : as.eraseDups.Pairwise fun b c => (as ++ [a]).idxOf b < (as ++ [a]).idxOf c :=
      ih.imp_of_mem fun hb hc hlt => by rwa [hkept hb, hkept hc]
    rw [eraseDups_append_singleton]
    split_ifs with h
    · rwa [List.append_nil]
    · refine List.pairwise_append.2 ⟨hleft, List.pairwise_singleton _ _, fun b hb c hc => ?_⟩
      obtain rfl := List.mem_singleton.1 hc
      rw [hkept hb, List.idxOf_append_of_notMem h]
      exact Nat.lt_add_right _ (List.idxOf_lt_length_of_mem (List.mem_eraseDups.1 hb))

end SlidePress
