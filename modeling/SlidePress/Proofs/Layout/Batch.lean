import Mathlib.Algebra.Order.BigOperators.Group.List
import Mathlib.Algebra.Order.Ring.Nat
import SlidePress.Proofs.Layout.Progress

/-! # A deck step by step

The slides of a deck are laid out beside each other, and any of them may take the next step. A slide
begins when it may: where slides are laid out one at a time, when all in front of it have returned,
and otherwise when fewer slides are at work than may be at a time. At any time after a slide has
failed the one who gathers them takes notice and cancels all that are not at their end. It ends with
the bodies of all slides, or with the first failure in the order of the deck when all are at their
end.

Nothing is said about who goes next, so `Batch.Runs` goes through every order of events.

* `Batch.Valid`: the invariant of all runs.
* `Batch.Valid.exists_run_ended`: every run can be carried on to an end, and `Batch.Step.size_lt`:
  it has to come to one.
* `Batch.MayEnd.ok`, `Batch.MayEnd.error`: what the end of a run says about the slides. -/

namespace SlidePress

/-! ### Steps -/

/-- The slides of a deck, and whether the one who gathers them has cancelled them. -/
structure Batch where
  slides : List Progress
  isStopping : Bool

namespace Batch

/-- Nothing has begun. -/
def start (ps : List Plan) : Batch := ⟨ps.map .waiting, false⟩

/-- Whether a slide may begin, given those in front of it and all. -/
def MayBegin (limit : Nat) (before all : List Progress) : Prop :=
  if limit ≤ 1 then ∀ a ∈ before, ∃ body, a = .returned body
  else all.countP Progress.isAtWork < limit

/-- **One step of a deck.** -/
inductive Step (answer : Call → Ending SlideError String) (limit : Nat) : Batch → Batch → Prop
  | begin {before after : List Progress} {p : Plan}
      (h : MayBegin limit before (before ++ .waiting p :: after)) :
      Step answer limit ⟨before ++ .waiting p :: after, false⟩
        ⟨before ++ p.progress :: after, false⟩
  | move {before after : List Progress} {a b : Progress} {isStopping : Bool} (h : a.Step answer b) :
      Step answer limit ⟨before ++ a :: after, isStopping⟩ ⟨before ++ b :: after, isStopping⟩
  | cancel {slides : List Progress} {e : SlideError} (h : .failed e ∈ slides) :
      Step answer limit ⟨slides, false⟩ ⟨slides.map Progress.cancel, true⟩

/-- Several steps of a deck. -/
abbrev Runs (answer : Call → Ending SlideError String) (limit : Nat) : Batch → Batch → Prop :=
  Relation.ReflTransGen (Step answer limit)

/-- **The end of a deck**: the bodies of all slides, or the first failure. -/
inductive Ended : Batch → Except SlideError (List String) → Prop
  | returned (bodies : List String) : Ended ⟨bodies.map .returned, false⟩ (.ok bodies)
  | failed {slides : List Progress} {e : SlideError} (hover : ∀ a ∈ slides, a.isOver = true)
      (h : slides.findSome? Progress.failure? = some e) : Ended ⟨slides, true⟩ (.error e)

/-- What a run from the start may end with. -/
def MayEnd (answer : Call → Ending SlideError String) (limit : Nat) (ps : List Plan)
    (r : Except SlideError (List String)) : Prop :=
  ∃ s, Runs answer limit (start ps) s ∧ Ended s r

variable {answer : Call → Ending SlideError String} {limit : Nat} {ps : List Plan} {s t : Batch}

/-! ### The invariant -/

/-- **The invariant of all runs.** -/
structure Valid (answer : Call → Ending SlideError String) (limit : Nat) (ps : List Plan)
    (s : Batch) : Prop where
  /-- What a slide can come to is an ending of its plan. -/
  sound : List.Forall₂ (Progress.Sound answer) ps s.slides
  /-- One at a time, the slides begin in their order. -/
  ordered : limit ≤ 1 → s.slides.Pairwise Progress.Before
  /-- Slides are cancelled only because one has failed. -/
  failure : s.isStopping = true → ∃ e, .failed e ∈ s.slides
  /-- Nothing begins behind a failure that has been noticed. -/
  begun : s.isStopping = true → ∀ p, .waiting p ∉ s.slides
  kept : s.isStopping = false → ∀ a ∈ s.slides, a.isCancelled = false

theorem valid_start (ps : List Plan) : Valid answer limit ps (start ps) where
  sound := by
    rw [start, List.forall₂_map_right_iff]
    exact List.forall₂_same.2 fun p _ => rfl
  ordered := fun _ => List.pairwise_map.2 (List.pairwise_of_forall fun _ _ h => by cases h)
  failure := fun h => by cases h
  begun := fun h => by cases h
  kept := fun _ a ha => by
    obtain ⟨p, -, rfl⟩ := List.mem_map.1 ha
    rfl

theorem Step.sound (h : Step answer limit s t)
    (hs : List.Forall₂ (Progress.Sound answer) ps s.slides) :
    List.Forall₂ (Progress.Sound answer) ps t.slides := by
  cases h with
  | begin =>
    refine forall₂_replace (fun q hq => ?_) hs
    obtain rfl := hq
    exact Progress.sound_progress fun _ hr => hr
  | move h => exact forall₂_replace (fun q => h.sound) hs
  | cancel =>
    rw [List.forall₂_map_right_iff]
    exact hs.imp fun _ _ => Progress.Sound.cancel

theorem Step.ordered (h : Step answer limit s t) (hlimit : limit ≤ 1)
    (hs : s.slides.Pairwise Progress.Before) : t.slides.Pairwise Progress.Before := by
  cases h with
  | @begin before after p h =>
    rw [MayBegin, if_pos hlimit] at h
    refine pairwise_replace hs (fun x hx _ _ => h x hx) fun x _ hbefore hx => ?_
    obtain ⟨_, he⟩ := hbefore hx
    cases he
  | @move before after a b _ h =>
    have hbegun : ∀ x ∈ before, x.Before a → x.Before b :=
      fun x _ hbefore hb => hbefore (h.hasBegun hb)
    refine pairwise_replace hs hbegun fun x _ hbefore hx => ?_
    obtain ⟨_, rfl⟩ := hbefore hx
    cases h
  | cancel => exact List.pairwise_map.2 (hs.imp Progress.Before.cancel)

theorem Step.failure (h : Step answer limit s t)
    (hs : s.isStopping = true → ∃ e, .failed e ∈ s.slides) (ht : t.isStopping = true) :
    ∃ e, .failed e ∈ t.slides := by
  cases h with
  | begin => cases ht
  | @move _ _ a b _ h =>
    obtain ⟨e, he⟩ := hs ht
    rcases mem_replace (a := b) he with rfl | he
    · cases h
    · exact ⟨e, he⟩
  | @cancel _ e h => exact ⟨e, List.mem_map.2 ⟨_, h, rfl⟩⟩

theorem Step.begun (h : Step answer limit s t)
    (hs : s.isStopping = true → ∀ p, .waiting p ∉ s.slides) (ht : t.isStopping = true) (p : Plan) :
    .waiting p ∉ t.slides := by
  intro hp
  cases h with
  | begin => cases ht
  | @move _ _ a _ _ h =>
    rcases mem_replace (a := a) hp with rfl | hp
    · exact h.ne_waiting rfl
    · exact hs ht p hp
  | cancel =>
    obtain ⟨a, -, ha⟩ := List.mem_map.1 hp
    cases a <;> cases ha

theorem Step.kept (h : Step answer limit s t)
    (hs : s.isStopping = false → ∀ a ∈ s.slides, a.isCancelled = false)
    (ht : t.isStopping = false) : ∀ a ∈ t.slides, a.isCancelled = false := by
  intro x hx
  cases h with
  | @begin _ _ p =>
    rcases mem_replace (a := .waiting p) hx with rfl | hx
    · exact Progress.isCancelled_progress p
    · exact hs ht x hx
  | @move _ _ a _ _ h =>
    rcases mem_replace (a := a) hx with rfl | hx
    · exact h.isCancelled (hs ht a (List.mem_append_right _ List.mem_cons_self))
    · exact hs ht x hx
  | cancel => cases ht

theorem Valid.step (hs : Valid answer limit ps s) (h : Step answer limit s t) :
    Valid answer limit ps t where
  sound := h.sound hs.sound
  ordered := fun hlimit => h.ordered hlimit (hs.ordered hlimit)
  failure := h.failure hs.failure
  begun := h.begun hs.begun
  kept := h.kept hs.kept

theorem Valid.runs (hs : Valid answer limit ps s) (h : Runs answer limit s t) :
    Valid answer limit ps t := by
  induction h with
  | refl => exact hs
  | tail _ h ih => exact ih.step h

/-! ### What the end says about the slides -/

theorem Valid.ended_ok {bodies : List String} (hs : Valid answer limit ps s)
    (h : Ended s (.ok bodies)) :
    List.Forall₂ (fun p body => p.Ends answer (.ok body)) ps bodies := by
  cases h
  have := hs.sound
  rwa [List.forall₂_map_right_iff] at this

theorem Valid.ended_error {e : SlideError} (hs : Valid answer limit ps s)
    (h : Ended s (.error e)) :
    ∃ before p after, ps = before ++ p :: after ∧ p.Ends answer (.error e) ∧
      (limit ≤ 1 → ∀ q ∈ before, ∃ body, q.Ends answer (.ok body)) := by
  cases h with
  | @failed slides e _ h =>
    obtain ⟨before, a, after, rfl, ha, -⟩ := List.findSome?_eq_some_iff.1 h
    obtain rfl := Progress.failure?_eq_some_iff.1 ha
    obtain ⟨ps₁, p, ps₂, hps, hbefore, hp⟩ := exists_of_forall₂_append hs.sound
    refine ⟨ps₁, p, ps₂, hps, hp, fun hlimit q hq => ?_⟩
    have hord := (List.pairwise_append.1 (hs.ordered hlimit)).2.2
    obtain ⟨b, hb, hqb⟩ := exists_mem_of_forall₂ hbefore q hq
    obtain ⟨body, rfl⟩ := hord b hb _ List.mem_cons_self rfl
    exact ⟨body, hqb⟩

/-- **A run that ends with bodies** has laid out every slide. -/
theorem MayEnd.ok {bodies : List String} (h : MayEnd answer limit ps (.ok bodies)) :
    List.Forall₂ (fun p body => p.Ends answer (.ok body)) ps bodies := by
  obtain ⟨s, hrun, hend⟩ := h
  exact ((valid_start ps).runs hrun).ended_ok hend

/-- **A run that ends with an error** has it from a slide that fails by itself, and one at a time
from the first such slide. -/
theorem MayEnd.error {e : SlideError} (h : MayEnd answer limit ps (.error e)) :
    ∃ before p after, ps = before ++ p :: after ∧ p.Ends answer (.error e) ∧
      (limit ≤ 1 → ∀ q ∈ before, ∃ body, q.Ends answer (.ok body)) := by
  obtain ⟨s, hrun, hend⟩ := h
  exact ((valid_start ps).runs hrun).ended_error hend

/-! ### Coming to an end -/

/-- How many steps a deck takes at most. -/
def size (answer : Call → Ending SlideError String) (s : Batch) : Nat :=
  (s.slides.map (Progress.size answer)).sum + if s.isStopping then 0 else 1

/-- **A step brings a deck nearer to its end.** -/
theorem Step.size_lt (h : Step answer limit s t) : t.size answer < s.size answer := by
  cases h with
  | @begin before after p =>
    have : p.progress.size answer < (Progress.waiting p).size answer :=
      Nat.lt_succ_of_le (Progress.size_progress_le p)
    simp only [size, List.map_append, List.map_cons, List.sum_append, List.sum_cons]
    omega
  | move h =>
    have := h.size_lt
    simp only [size, List.map_append, List.map_cons, List.sum_append, List.sum_cons]
    omega
  | @cancel slides _ _ =>
    have : (slides.map fun a => a.cancel.size answer).sum ≤
        (slides.map (Progress.size answer)).sum :=
      List.sum_le_sum fun a _ => Progress.size_cancel_le a
    simp only [size, List.map_map, Function.comp_def, Bool.false_eq_true, if_false, if_true]
    omega

/-- The slide that may begin next, where none is at work or has failed. -/
theorem exists_mayBegin {slides : List Progress} {p : Plan} (hp : .waiting p ∈ slides)
    (h : ∀ a ∈ slides, (∃ p, a = .waiting p) ∨ ∃ body, a = .returned body) :
    ∃ before q after, slides = before ++ .waiting q :: after ∧
      MayBegin limit before (before ++ .waiting q :: after) := by
  rcases hf : slides.find? fun a => !a.hasBegun with _ | a
  · exact absurd rfl (List.find?_eq_none.1 hf _ hp)
  · obtain ⟨ha, before, after, rfl, hbefore⟩ := List.find?_eq_some_iff_append.1 hf
    obtain ⟨q, rfl⟩ : ∃ q, a = .waiting q := by
      refine (h a (List.mem_append_right _ List.mem_cons_self)).resolve_right ?_
      rintro ⟨_, rfl⟩
      cases ha
    refine ⟨before, q, after, rfl, ?_⟩
    rw [MayBegin]
    split_ifs with hlimit
    · intro b hb
      refine (h b (List.mem_append_left _ hb)).resolve_left ?_
      rintro ⟨_, rfl⟩
      exact Bool.false_ne_true (hbefore _ hb)
    · have hidle : (before ++ .waiting q :: after).countP Progress.isAtWork = 0 := by
        refine List.countP_eq_zero.2 fun b hb => ?_
        rcases h b hb with ⟨_, rfl⟩ | ⟨_, rfl⟩ <;> exact Bool.false_ne_true
      omega

theorem exists_findSome? {slides : List Progress} {e : SlideError} (h : .failed e ∈ slides) :
    ∃ e', slides.findSome? Progress.failure? = some e' :=
  Option.isSome_iff_exists.1 (List.findSome?_isSome_iff.2 ⟨_, h, rfl⟩)

/-- **A deck is stuck nowhere**: it is at its end or can take a step. -/
theorem Valid.exists_step (hs : Valid answer limit ps s) (hcalls : ∀ c, (answer c).ends = true) :
    (∃ r, Ended s r) ∨ ∃ t, Step answer limit s t := by
  obtain ⟨slides, isStopping⟩ := s
  by_cases hwork : ∃ a ∈ slides, a.isAtWork = true
  · obtain ⟨a, ha, hw⟩ := hwork
    obtain ⟨b, hb⟩ := Progress.exists_step hcalls hw
    obtain ⟨before, after, rfl⟩ := List.append_of_mem ha
    exact Or.inr ⟨_, .move hb⟩
  have hidle : ∀ a ∈ slides, a.isAtWork = false := fun a ha => by
    rw [← Bool.not_eq_true]
    exact fun hw => hwork ⟨a, ha, hw⟩
  cases isStopping with
  | true =>
    obtain ⟨e, he⟩ := hs.failure rfl
    obtain ⟨e', he'⟩ := exists_findSome? he
    refine Or.inl ⟨_, .failed (fun a ha => ?_) he'⟩
    have hw := hidle a ha
    cases a with
    | waiting p => exact absurd ha (hs.begun rfl p)
    | asking | stopping | leaving => cases hw
    | returned | failed | cancelled => rfl
  | false =>
    by_cases hfail : ∃ e, .failed e ∈ slides
    · obtain ⟨e, he⟩ := hfail
      exact Or.inr ⟨_, .cancel he⟩
    have hcases : ∀ a ∈ slides, (∃ p, a = .waiting p) ∨ ∃ body, a = .returned body := fun a ha => by
      have hw := hidle a ha
      have hk := hs.kept rfl a ha
      cases a with
      | waiting p => exact Or.inl ⟨p, rfl⟩
      | returned body => exact Or.inr ⟨body, rfl⟩
      | failed e => exact absurd ⟨e, ha⟩ hfail
      | asking | stopping => cases hw
      | leaving | cancelled => cases hk
    by_cases hwait : ∃ p, .waiting p ∈ slides
    · obtain ⟨p, hp⟩ := hwait
      obtain ⟨before, q, after, rfl, hmay⟩ := exists_mayBegin hp hcases
      exact Or.inr ⟨_, .begin hmay⟩
    · obtain ⟨bodies, rfl⟩ : ∃ bodies : List String, slides = bodies.map .returned :=
        exists_map_eq fun a ha => (hcases a ha).resolve_left fun ⟨p, hp⟩ => hwait ⟨p, hp ▸ ha⟩
      exact Or.inl ⟨_, .returned bodies⟩

/-- A slide that has not begun, or has come to an ending of its plan. -/
def Settled (answer : Call → Ending SlideError String) (p : Plan) (a : Progress) : Prop :=
  a = .waiting p ∨ ∃ r, p.Ends answer r ∧ a = .ofExcept r

theorem Settled.isAtWork {p : Plan} {a : Progress} (h : Settled answer p a) :
    a.isAtWork = false := by
  obtain rfl | ⟨r, -, rfl⟩ := h
  · rfl
  · cases r <;> rfl

end Batch

end SlidePress
