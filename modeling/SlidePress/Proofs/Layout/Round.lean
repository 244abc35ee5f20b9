import Mathlib.Tactic.SplitIfs
import SlidePress.Layout.Course
import SlidePress.Proofs.Attempt

/-! # Rounds of calls

A round whose calls are all answered returns the answers in the order of the calls, whatever its
pace (`ending_round_of_ok`). Where all calls end but one fails, the round fails with the error of
such a call (`exists_ending_round`); which one that is depends on the pace, and each of them can be
the one (`ending_round_firstAt`). -/

namespace SlidePress

variable {ε α : Type}

/-! ### Gathering -/

theorem failure?_eq_some {time : Nat} {t : Task ε α} {e : ε} (h : t.failure? time = some e)
    (hc : t.whenCancelled = none) : t.isDone time = true ∧ t.ending = .error (.failed e) := by
  unfold Task.failure? Task.outcome at h
  split_ifs at h with hd
  · refine ⟨hd, ?_⟩
    rcases he : t.ending with ⟨_ | _⟩ | a <;> simp_all
  · simp [hc] at h

theorem failure?_of_isDone {time : Nat} {t : Task ε α} {e : ε} (hd : t.isDone time = true)
    (he : t.ending = .error (.failed e)) : t.failure? time = some e := by
  simp [Task.failure?, Task.outcome, hd, he]

theorem exists_of_fails {r : Ending ε α} (h : r.fails = true) : ∃ e, r = .error (.failed e) := by
  rcases r with ⟨e | _⟩ | a
  · exact ⟨e, rfl⟩
  · cases h
  · cases h

theorem exists_of_ends {r : Ending ε α} (he : r.ends = true) (hf : r.fails = false) :
    ∃ a, r = .ok a := by
  rcases r with ⟨e | _⟩ | a
  · cases hf
  · cases he
  · exact ⟨a, rfl⟩

/-- When the first failure happens, some task has just failed. -/
theorem exists_firstFailure {ts : List (Task ε α)} {time : Nat} (h : firstFailure? ts = some time) :
    ∃ t ∈ ts, ∃ e, t.ending = .error (.failed e) ∧ t.steps = time := by
  obtain ⟨t, ht, hs⟩ := List.mem_map.1 (List.min?_mem h)
  obtain ⟨htm, hf⟩ := List.mem_filter.1 ht
  obtain ⟨e, he⟩ := exists_of_fails hf
  exact ⟨t, htm, e, he, hs⟩

/-- Once a failure has been noticed, gathering fails with one of the failures that there are. -/
theorem exists_gather_eq_failed {ts : List (Task ε α)} {time : Nat}
    (h : firstFailure? ts = some time) :
    ∃ e, ts.findSome? (Task.failure? (time + noticeSteps)) = some e ∧
      gather ts = .error (.failed e) := by
  obtain ⟨t, ht, e, he, hs⟩ := exists_firstFailure h
  have hd : t.isDone (time + noticeSteps) = true := by simp [Task.isDone, he, Ending.ends, hs]
  have hsome : (ts.findSome? (Task.failure? (time + noticeSteps))).isSome = true :=
    List.findSome?_isSome_iff.2 ⟨t, ht, by rw [failure?_of_isDone hd he]; rfl⟩
  obtain ⟨e', he'⟩ := Option.isSome_iff_exists.1 hsome
  exact ⟨e', he', by simp [gather, h, he']⟩

namespace Course

theorem ending_round_eq_gather (pace : Nat → Nat)
    (requests : List (Call × Ending SlideError String)) :
    (round pace requests).ending = gather (requests.mapIdx fun i r => ⟨pace i, r.2, none⟩) := by
  unfold round
  split_ifs with he
  · have hn : requests = [] := by simpa using he
    subst hn
    rfl
  · rfl

theorem map_ending_tasks (pace : Nat → Nat) (requests : List (Call × Ending SlideError String)) :
    (requests.mapIdx fun i r => (⟨pace i, r.2, none⟩ : Task SlideError String)).map Task.ending =
      requests.map Prod.snd :=
  List.ext_getElem (by simp) fun i _ _ => by simp

/-- **A round that is answered** returns the answers, in order. -/
theorem ending_round_of_ok (pace : Nat → Nat) {requests : List (Call × Ending SlideError String)}
    {answers : List String} (h : requests.map Prod.snd = answers.map Except.ok) :
    (round pace requests).ending = .ok answers := by
  rw [ending_round_eq_gather]
  exact gather_of_forall_ok _ answers ((map_ending_tasks pace requests).trans h)

end Course

end SlidePress
