import SlidePress.Proofs.Layout.Answered

/-! # What stops a slide

A slide that does not come out was stopped: it has no draft, or one of its calls failed or has no end
(`Press.stoppedBy_of_layOut`). A deck that does not come out was stopped by one of its slides, for
the reason that this slide has by itself (`Press.exists_stoppedBy`); cancelling the others adds no
reason of its own, and a slide that never begins waits for one that never ends. -/

namespace SlidePress

/-! ### Tasks and rounds -/

/-- Tasks that are not gathered to results end in the way of one of them. -/
theorem exists_of_gather_eq_error {ε α : Type} {ts : List (Task ε α)} {h : Halt ε}
    (hcancelled : ∀ t ∈ ts, t.whenCancelled = none) (hg : gather ts = .error h) :
    ∃ t ∈ ts, t.ending = .error h := by
  cases hfirst : firstFailure? ts with
  | none =>
    rw [gather, hfirst] at hg
    exact Attempt.exists_of_mapM_eq_error hg
  | some time =>
    obtain ⟨e, he, hfailed⟩ := exists_gather_eq_failed hfirst
    obtain rfl := Except.error.inj (hfailed.symm.trans hg)
    obtain ⟨u, hu, hf⟩ := List.exists_of_findSome?_eq_some he
    exact ⟨u, hu, (failure?_eq_some hf (hcancelled u hu)).2⟩

theorem Course.exists_of_round_eq_error {pace : Nat → Nat}
    {requests : List (Call × Ending SlideError String)} {h : Halt SlideError}
    (hr : (round pace requests).ending = .error h) : ∃ r ∈ requests, r.2 = .error h := by
  rw [ending_round_eq_gather] at hr
  have hcancelled : ∀ t ∈ requests.mapIdx fun i r => (⟨pace i, r.2, none⟩ : Task SlideError String),
      t.whenCancelled = none := fun t ht => by
    obtain ⟨i, hi, rfl⟩ := List.mem_mapIdx.1 ht
    rfl
  obtain ⟨t, ht, he⟩ := exists_of_gather_eq_error hcancelled hr
  obtain ⟨i, hi, rfl⟩ := List.mem_mapIdx.1 ht
  exact ⟨_, List.getElem_mem hi, he⟩

namespace Press

variable {press : Press}

/-! ### One slide -/

/-- What stops a slide at its place. -/
inductive StoppedBy (press : Press) (x : SlidePlace × Slide) : Halt SlideError → Prop
  | noDraft {e : SlideError} (hraw : x.2.isRaw = false) (he : press.draft x.1 x.2 = .error e) :
    StoppedBy press x (.failed e)
  | unanswered {c : Call} {h : Halt SlideError} (hc : c ∈ press.callsOf x)
    (he : press.answer c = .error h) : StoppedBy press x h

theorem exists_of_resolve_eq_error {pace : Pace} {r : Requests} {draft : String}
    {h : Halt SlideError} (hr : (r.resolve press pace draft).ending = .error h) :
    ∃ c ∈ callsFor r, press.answer c = .error h := by
  have hround (k : RequestKind)
      (hk : (Course.round (pace k) ((r.calls k).map fun c => (c, press.answer c))).ending =
        .error h) : ∃ c ∈ callsFor r, press.answer c = .error h := by
    obtain ⟨p, hp, he⟩ := Course.exists_of_round_eq_error hk
    obtain ⟨c, hc, rfl⟩ := List.mem_map.1 hp
    refine ⟨c, ?_, he⟩
    unfold callsFor
    cases k <;> simp [hc]
  unfold Requests.resolve Requests.resolveWith at hr
  simp only [Course.ending_bind, Course.ending_pure] at hr
  rcases hi : (Course.round (pace .icon) ((r.calls .icon).map fun c =>
    (c, press.answer c))).ending with h' | icons
  · rw [hi] at hr
    cases hr
    exact hround .icon hi
  rcases hc : (Course.round (pace .cite) ((r.calls .cite).map fun c =>
    (c, press.answer c))).ending with h' | cites
  · rw [hi, hc] at hr
    cases hr
    exact hround .cite hc
  rcases he : (Course.round (pace .expand) ((r.calls .expand).map fun c =>
    (c, press.answer c))).ending with h' | expands
  · rw [hi, hc, he] at hr
    cases hr
    exact hround .expand he
  · rw [hi, hc, he] at hr
    cases hr

/-- **A slide that does not come out** was stopped. -/
theorem stoppedBy_of_layOut {pace : Pace} {x : SlidePlace × Slide} {h : Halt SlideError}
    (hx : (press.layOut pace x.1 x.2).ending = .error h) : press.StoppedBy x h := by
  by_cases hraw : x.2.isRaw = true
  · rw [layOut_of_isRaw _ _ _ _ hraw] at hx
    cases hx
  cases hdraft : press.draft x.1 x.2 with
  | error e =>
    rw [ending_layOut_of_error hraw hdraft] at hx
    cases hx
    exact .noDraft (by simpa using hraw) hdraft
  | ok p =>
    rw [ending_layOut_of_draft hraw hdraft] at hx
    cases hr : (p.2.resolve press pace p.1).ending with
    | error h' =>
      rw [hr] at hx
      cases hx
      obtain ⟨c, hc, he⟩ := exists_of_resolve_eq_error hr
      refine .unanswered ?_ he
      rw [callsOf, if_neg hraw, hdraft]
      exact hc
    | ok text =>
      rw [hr] at hx
      cases hx

/-! ### A deck -/

theorem exists_of_mem_tasks {starts : List (Option Nat)} {cs : List (Course String)}
    {t : Task SlideError String} (h : t ∈ List.zipWith taskFrom starts cs) :
    ∃ start ∈ starts, ∃ c ∈ cs, t = taskFrom start c := by
  rw [← List.map_uncurry_zip_eq_zipWith] at h
  obtain ⟨⟨start, c⟩, hmem, rfl⟩ := List.mem_map.1 h
  obtain ⟨hstart, hc⟩ := List.of_mem_zip hmem
  exact ⟨start, hstart, c, hc, rfl⟩

/-- Where a slide never begins, another one never ends. -/
theorem exists_endless_of_none_mem {limit : Nat} {cs : List (Course String)} (hlimit : 1 ≤ limit)
    (h : none ∈ startTimes (List.replicate (min limit cs.length) 0)
      (cs.map fun c => if c.ending.ends then some c.steps else none)) :
    ∃ c ∈ cs, c.ending = .error .endless := by
  by_contra hno
  have hends : ∀ c ∈ cs, c.ending.ends = true := fun c hc => by
    rcases he : c.ending with ⟨e | _⟩ | body
    · rfl
    · exact absurd ⟨c, hc, he⟩ hno
    · rfl
  obtain ⟨times, hstarts, -⟩ := exists_starts limit hends hlimit
  rw [hstarts] at h
  simp at h

theorem exists_of_together_eq_error {paces : Nat → Pace} {limit : Nat} {d : Deck}
    {h : Halt SlideError} (hlimit : 1 ≤ limit)
    (ht : (press.together paces limit d).ending = .error h) :
    ∃ c ∈ press.courses paces d, c.ending = .error h := by
  unfold together at ht
  obtain ⟨t, hmem, he⟩ := exists_of_gather_eq_error (fun t hmem => by
    obtain ⟨start, -, c, -, rfl⟩ := exists_of_mem_tasks hmem
    cases start <;> rfl) ht
  obtain ⟨start, hstart, c, hc, rfl⟩ := exists_of_mem_tasks hmem
  cases start with
  | none =>
    cases he
    exact exists_endless_of_none_mem hlimit hstart
  | some time => exact ⟨c, hc, he⟩

/-- **A deck that does not come out** was stopped by one of its slides. -/
theorem exists_stoppedBy {paces : Nat → Pace} {limit : Nat} {d : Deck} {h : Halt SlideError}
    (hd : (press.layOutAt paces limit d).ending = .error h) :
    ∃ x ∈ placed d, press.StoppedBy x h := by
  unfold layOutAt at hd
  split_ifs at hd with hlimit
  · rw [oneByOne, Course.ending_mapM] at hd
    obtain ⟨x, hx, he⟩ := Attempt.exists_of_mapM_eq_error hd
    exact ⟨x, hx, stoppedBy_of_layOut he⟩
  · obtain ⟨c, hc, he⟩ := exists_of_together_eq_error (by omega) hd
    obtain ⟨x, hx, rfl⟩ := List.mem_map.1 hc
    exact ⟨x, hx, stoppedBy_of_layOut he⟩

end Press

end SlidePress
