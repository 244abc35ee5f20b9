import SlidePress.Proofs.Layout.Answered
import SlidePress.Proofs.Layout.Batch

/-! # Gathering step by step

Some tasks have been started and may come to their ends in any order. The gatherer waits until all
are at their end or one has failed, at the earliest; then it cancels those that are not at their end
and waits until they are gone, too. A task that was cancelled may still return or fail in its own
way. At last the gatherer fails with the first failure in the order of the tasks, and if there is
none it returns the results.

Nothing is said about who goes next, nor how long after a failure the gatherer takes notice, so
`Gathering.Runs` goes through every order of events. The tasks of `gather` have a timing, and it
computes the one order that comes of it; the ends of all runs are what it computes with any timing
(`Gathering.mayExit_iff`).

* `Gathering.Valid`: the invariant of all runs.
* `Gathering.Guarantee`: what the tasks and whoever gathers them can rely on.
* `Gathering.guarantee`: it holds in all runs, which all come to an end. -/

namespace SlidePress

variable {ε α : Type}

/-! ### One task -/

/-- Where a task is, apart from its timing. -/
inductive Fate (ε α : Type) where
  | running (ending : Ending ε α) (whenCancelled : Option (Except ε α))
  /-- It was cancelled and is not at its end yet. -/
  | leaving (whenCancelled : Option (Except ε α))
  /-- At its end by itself. -/
  | ended (r : Except ε α)
  /-- At its end after it was cancelled. -/
  | stopped (r : Option (Except ε α))

/-- A task that has just been started. -/
def Task.fate (t : Task ε α) : Fate ε α := .running t.ending t.whenCancelled

namespace Fate

/-- **One step of a task.** -/
inductive Step : Fate ε α → Fate ε α → Prop
  | finish {ending : Ending ε α} {whenCancelled : Option (Except ε α)} {r : Except ε α}
      (h : ending = .ofExcept r) : Step (.running ending whenCancelled) (.ended r)
  | leave {whenCancelled : Option (Except ε α)} :
      Step (.leaving whenCancelled) (.stopped whenCancelled)

/-- Whether a task is at its end. -/
def isOver : Fate ε α → Bool
  | ended _ | stopped _ => true
  | _ => false

/-- Whether a task runs and was not cancelled. -/
def isRunning : Fate ε α → Bool
  | running _ _ => true
  | _ => false

/-- Whether a task was cancelled and is not at its end yet. -/
def isLeaving : Fate ε α → Bool
  | leaving _ => true
  | _ => false

/-- Whether a task was cancelled. -/
def isCancelled : Fate ε α → Bool
  | leaving _ | stopped _ => true
  | _ => false

/-- The failure that a task ended with. -/
def failure? : Fate ε α → Option ε
  | ended (.error e) | stopped (some (.error e)) => some e
  | _ => none

/-- The result that a task ended with. -/
def result? : Fate ε α → Option α
  | ended (.ok a) | stopped (some (.ok a)) => some a
  | _ => none

/-- A task is cancelled unless it is at its end. -/
def cancel : Fate ε α → Fate ε α
  | running _ whenCancelled => leaving whenCancelled
  | a => a

/-- Where a task can be, by the way it ends. -/
def Of (t : Task ε α) : Fate ε α → Prop
  | running ending whenCancelled => ending = t.ending ∧ whenCancelled = t.whenCancelled
  | leaving whenCancelled => whenCancelled = t.whenCancelled
  | ended r => t.ending = .ofExcept r
  | stopped r => r = t.whenCancelled

variable {t : Task ε α} {a b : Fate ε α}

theorem of_fate (t : Task ε α) : Of t t.fate := ⟨rfl, rfl⟩

theorem Step.of (h : Step a b) (ha : Of t a) : Of t b := by
  cases h with
  | finish h => exact ha.1.symm.trans h
  | leave => exact ha

theorem Of.cancel (h : Of t a) : Of t a.cancel := by
  cases a with
  | running => exact h.2
  | _ => exact h

theorem Step.isCancelled (h : Step a b) (ha : a.isCancelled = false) : b.isCancelled = false := by
  cases h with
  | finish => rfl
  | leave => cases ha

theorem isRunning_cancel (a : Fate ε α) : a.cancel.isRunning = false := by
  cases a <;> rfl

theorem cancel_of_isOver (h : a.isOver = true) : a.cancel = a := by
  cases a with
  | running => cases h
  | _ => rfl

theorem isOver_of (hr : a.isRunning = false) (hl : a.isLeaving = false) : a.isOver = true := by
  cases a with
  | running => cases hr
  | leaving => cases hl
  | _ => rfl

theorem exists_ended (ho : a.isOver = true) (hc : a.isCancelled = false) : ∃ r, a = .ended r := by
  cases a with
  | ended r => exact ⟨r, rfl⟩
  | stopped => cases hc
  | _ => cases ho

/-- How many steps a task takes at most. -/
def size : Fate ε α → Nat
  | running _ _ => 2
  | leaving _ => 1
  | _ => 0

theorem Step.size_lt (h : Step a b) : b.size < a.size := by
  cases h with
  | finish => exact Nat.zero_lt_two
  | leave => exact Nat.zero_lt_one

theorem size_cancel_le (a : Fate ε α) : a.cancel.size ≤ a.size := by
  cases a with
  | running => exact Nat.le_succ 1
  | _ => exact Nat.le_refl _

end Fate

/-! ### All tasks -/

/-- Tasks, and whether the one who gathers them waits no longer for the first failure. -/
structure Gathering (ε α : Type) where
  tasks : List (Fate ε α)
  isAwake : Bool

namespace Gathering

/-- All tasks have been started. -/
def start (ts : List (Task ε α)) : Gathering ε α := ⟨ts.map Task.fate, false⟩

/-- **One step of gathering.** The gatherer wakes up when all tasks are at their end or after one
has failed, and cancels those that are not at their end. -/
inductive Step : Gathering ε α → Gathering ε α → Prop
  | move {before after : List (Fate ε α)} {a b : Fate ε α} {isAwake : Bool} (h : a.Step b) :
      Step ⟨before ++ a :: after, isAwake⟩ ⟨before ++ b :: after, isAwake⟩
  | wake {tasks : List (Fate ε α)}
      (h : (∀ a ∈ tasks, a.isOver = true) ∨ ∃ e, .ended (.error e) ∈ tasks) :
      Step ⟨tasks, false⟩ ⟨tasks.map Fate.cancel, true⟩

/-- Several steps of gathering. -/
abbrev Runs : Gathering ε α → Gathering ε α → Prop := Relation.ReflTransGen Step

/-- **The end of gathering**, when those that were cancelled are gone: the first failure, or all
results. -/
inductive Exits : Gathering ε α → Except ε (List α) → Prop
  | raised {tasks : List (Fate ε α)} {e : ε} (hgone : ∀ a ∈ tasks, a.isLeaving = false)
      (h : tasks.findSome? Fate.failure? = some e) : Exits ⟨tasks, true⟩ (.error e)
  | returned {tasks : List (Fate ε α)} {as : List α} (hgone : ∀ a ∈ tasks, a.isLeaving = false)
      (hnone : tasks.findSome? Fate.failure? = none)
      (h : tasks.map Fate.result? = as.map some) : Exits ⟨tasks, true⟩ (.ok as)

/-- What a run from the start may end with. -/
def MayExit (ts : List (Task ε α)) (r : Except ε (List α)) : Prop :=
  ∃ s, Runs (start ts) s ∧ Exits s r

variable {ts : List (Task ε α)} {s t : Gathering ε α}

/-! ### The invariant -/

/-- **The invariant of all runs.** -/
structure Valid (ts : List (Task ε α)) (s : Gathering ε α) : Prop where
  /-- Every task is where it can be. -/
  sound : List.Forall₂ Fate.Of ts s.tasks
  kept : s.isAwake = false → ∀ a ∈ s.tasks, a.isCancelled = false
  /-- The gatherer woke up for a reason that still stands. -/
  woken : s.isAwake = true →
    (∃ e, .ended (.error e) ∈ s.tasks) ∨ ∀ a ∈ s.tasks, ∃ r, a = .ended r
  cancelled : s.isAwake = true → ∀ a ∈ s.tasks, a.isRunning = false

theorem valid_start (ts : List (Task ε α)) : Valid ts (start ts) where
  sound := by
    rw [start, List.forall₂_map_right_iff]
    exact List.forall₂_same.2 fun t _ => Fate.of_fate t
  kept := fun _ a ha => by
    obtain ⟨t, -, rfl⟩ := List.mem_map.1 ha
    rfl
  woken := fun h => by cases h
  cancelled := fun h => by cases h

theorem Step.woken (h : Step s t) (hs : Valid ts s) (ht : t.isAwake = true) :
    (∃ e, .ended (.error e) ∈ t.tasks) ∨ ∀ a ∈ t.tasks, ∃ r, a = .ended r := by
  cases h with
  | @move before after a b _ h =>
    have ha : ∀ r, a ≠ .ended r := by
      rintro r rfl
      cases h
    rcases hs.woken ht with ⟨e, he⟩ | hall
    · rcases mem_replace (a := b) he with he | he
      · exact absurd he.symm (ha _)
      · exact Or.inl ⟨e, he⟩
    · obtain ⟨r, hr⟩ := hall a (List.mem_append_right _ List.mem_cons_self)
      exact absurd hr (ha r)
  | wake h =>
    rcases h with hover | ⟨e, he⟩
    · refine Or.inr fun a ha => ?_
      obtain ⟨b, hb, rfl⟩ := List.mem_map.1 ha
      rw [Fate.cancel_of_isOver (hover b hb)]
      exact Fate.exists_ended (hover b hb) (hs.kept rfl b hb)
    · exact Or.inl ⟨e, List.mem_map.2 ⟨_, he, rfl⟩⟩

theorem Valid.step (hs : Valid ts s) (h : Step s t) : Valid ts t where
  sound := by
    cases h with
    | move h => exact forall₂_replace (fun _ => h.of) hs.sound
    | wake =>
      rw [List.forall₂_map_right_iff]
      exact hs.sound.imp fun _ _ => Fate.Of.cancel
  kept := fun ht x hx => by
    cases h with
    | @move _ _ a _ _ h =>
      rcases mem_replace (a := a) hx with rfl | hx
      · exact h.isCancelled (hs.kept ht a (List.mem_append_right _ List.mem_cons_self))
      · exact hs.kept ht x hx
    | wake => cases ht
  woken := h.woken hs
  cancelled := fun ht x hx => by
    cases h with
    | @move _ _ a b _ h =>
      rcases mem_replace (a := a) hx with rfl | hx
      · cases h <;> rfl
      · exact hs.cancelled ht x hx
    | wake =>
      obtain ⟨a, -, rfl⟩ := List.mem_map.1 hx
      exact Fate.isRunning_cancel a

theorem Valid.runs (hs : Valid ts s) (h : Runs s t) : Valid ts t := by
  induction h with
  | refl => exact hs
  | tail _ h ih => exact ih.step h

/-! ### Coming to an end -/

/-- How many steps gathering takes at most. -/
def size (s : Gathering ε α) : Nat :=
  (s.tasks.map Fate.size).sum + if s.isAwake then 0 else 1

theorem Step.size_lt (h : Step s t) : t.size < s.size := by
  cases h with
  | move h =>
    have := h.size_lt
    simp only [size, List.map_append, List.map_cons, List.sum_append, List.sum_cons]
    omega
  | @wake tasks _ =>
    have : (tasks.map fun a => a.cancel.size).sum ≤ (tasks.map Fate.size).sum :=
      List.sum_le_sum fun a _ => Fate.size_cancel_le a
    simp only [size, List.map_map, Function.comp_def, Bool.false_eq_true, if_false, if_true]
    omega

/-- No run goes on for ever. -/
theorem wellFounded_step : WellFounded fun t s : Gathering ε α => Step s t :=
  Subrelation.wf Step.size_lt (measure size).wf

/-- Tasks at their ends have a failure among them or all have results, if none was cancelled. -/
theorem exists_exits {tasks : List (Fate ε α)} (hover : ∀ a ∈ tasks, a.isOver = true)
    (h : (∃ e, .ended (.error e) ∈ tasks) ∨ ∀ a ∈ tasks, ∃ r, a = .ended r) :
    ∃ r, Exits ⟨tasks, true⟩ r := by
  have hgone : ∀ a ∈ tasks, a.isLeaving = false := fun a ha => by
    have := hover a ha
    cases a with
    | leaving => cases this
    | _ => rfl
  rcases hf : tasks.findSome? Fate.failure? with _ | e
  · have hended : ∀ a ∈ tasks, ∃ r, a = .ended r := by
      refine h.resolve_left ?_
      rintro ⟨e, he⟩
      have hnone := List.findSome?_eq_none_iff.1 hf _ he
      cases hnone
    obtain ⟨as, has⟩ : ∃ as : List α, tasks.map Fate.result? = as.map some := by
      refine exists_map_eq fun o ho => ?_
      obtain ⟨a, ha, rfl⟩ := List.mem_map.1 ho
      obtain ⟨r, rfl⟩ := hended a ha
      cases r with
      | error e => cases List.findSome?_eq_none_iff.1 hf _ ha
      | ok x => exact ⟨x, rfl⟩
    exact ⟨.ok as, .returned hgone hf has⟩
  · exact ⟨.error e, .raised hgone hf⟩

/-- No task is at work when gathering comes to its end. -/
theorem Valid.isOver (hs : Valid ts s) {r : Except ε (List α)} (h : Exits s r) :
    ∀ a ∈ s.tasks, a.isOver = true := by
  intro a ha
  cases h with
  | raised hgone | returned hgone => exact Fate.isOver_of (hs.cancelled rfl a ha) (hgone a ha)

/-- Where nothing more can happen, gathering is at its end, or no task fails and one has no end. -/
theorem Valid.exits_or_endless (hs : Valid ts s) (hstuck : ∀ t, ¬ Step s t) :
    (∃ r, Exits s r) ∨
      (∀ t ∈ ts, t.ending.fails = false) ∧ ∃ t ∈ ts, t.ending = .error .endless := by
  obtain ⟨tasks, isAwake⟩ := s
  have hrest : ∀ a ∈ tasks, ∀ b, ¬ a.Step b := fun a ha b h => by
    obtain ⟨before, after, rfl⟩ := List.append_of_mem ha
    exact hstuck _ (.move h)
  cases isAwake with
  | true =>
    refine Or.inl (exists_exits (fun a ha => ?_) (hs.woken rfl))
    refine Fate.isOver_of (hs.cancelled rfl a ha) ?_
    cases a with
    | leaving => exact absurd .leave (hrest _ ha _)
    | _ => rfl
  | false =>
    have hwake : ¬ ((∀ a ∈ tasks, a.isOver = true) ∨ ∃ e, .ended (.error e) ∈ tasks) :=
      fun h => hstuck _ (.wake h)
    have hrun : ∀ t a, Fate.Of t a → a ∈ tasks → a.isOver = false → t.ending = .error .endless := by
      intro t a hta ha hover
      cases a with
      | running ending whenCancelled =>
        rw [← hta.1]
        rcases ending with ⟨e | _⟩ | x
        · exact absurd (.finish (r := .error e) rfl) (hrest _ ha _)
        · rfl
        · exact absurd (.finish (r := .ok x) rfl) (hrest _ ha _)
      | leaving => cases hs.kept rfl _ ha
      | _ => cases hover
    refine Or.inr ⟨fun t ht => ?_, ?_⟩
    · obtain ⟨a, ha, hta⟩ := exists_mem_of_forall₂ hs.sound t ht
      by_cases hover : a.isOver = true
      · obtain ⟨r, rfl⟩ := Fate.exists_ended hover (hs.kept rfl a ha)
        have hended : t.ending = .ofExcept r := hta
        cases r with
        | error e => exact absurd (Or.inr ⟨e, ha⟩) hwake
        | ok x =>
          rw [hended]
          rfl
      · rw [hrun t a hta ha (by simpa using hover)]
        rfl
    · by_contra hnone
      refine hwake (Or.inl fun a ha => ?_)
      obtain ⟨t, ht, hta⟩ := exists_mem_of_forall₂ hs.sound.flip a ha
      by_contra hover
      exact hnone ⟨t, ht, hrun t a hta ha (by simpa using hover)⟩

/-- **A list of results** holds those of all tasks, in order. -/
theorem Valid.exits_ok (hs : Valid ts s) {as : List α} (h : Exits s (.ok as)) :
    ts.map Task.ending = as.map .ok := by
  cases h with
  | @returned tasks _ hgone hnone h =>
    have hended : ∀ a ∈ tasks, ∃ r, a = .ended r := by
      refine (hs.woken rfl).resolve_left ?_
      rintro ⟨e, he⟩
      cases List.findSome?_eq_none_iff.1 hnone _ he
    have hsound := hs.sound
    simp only at hsound
    clear hs hgone hnone
    induction hsound generalizing as with
    | nil =>
      cases as with
      | nil => rfl
      | cons => cases h
    | @cons t a ts tasks hta _ ih =>
      obtain ⟨r, rfl⟩ := hended a List.mem_cons_self
      cases as with
      | nil => cases h
      | cons x as =>
        rw [List.map_cons, List.map_cons, List.cons.injEq] at h
        have ht : t.ending = .ok x := by
          have hending : t.ending = .ofExcept r := hta
          cases r with
          | error e => cases h.1
          | ok y =>
            cases h.1
            exact hending
        rw [List.map_cons, List.map_cons, ht,
          ih h.2 fun b hb => hended b (List.mem_cons_of_mem _ hb)]

/-- Tasks that all return are left alone. -/
theorem Valid.isCancelled_eq_false (hs : Valid ts s)
    (hreturn : ∀ t ∈ ts, ∃ x, t.ending = .ok x) : ∀ a ∈ s.tasks, a.isCancelled = false := by
  cases hawake : s.isAwake with
  | false => exact hs.kept hawake
  | true =>
    intro a ha
    rcases hs.woken hawake with ⟨e, he⟩ | hended
    · obtain ⟨t, ht, hte⟩ := exists_mem_of_forall₂ hs.sound.flip _ he
      obtain ⟨x, hx⟩ := hreturn t ht
      have hfailed : t.ending = .error (.failed e) := hte
      rw [hx] at hfailed
      cases hfailed
    · obtain ⟨r, rfl⟩ := hended a ha
      rfl

/-- The gatherer that raises an error has seen a task fail by itself. -/
theorem Valid.exists_failed (hs : Valid ts s) {e : ε} (h : Exits s (.error e)) :
    ∃ e', .ended (.error e') ∈ s.tasks := by
  cases h with
  | @raised tasks _ hgone h =>
    refine (hs.woken rfl).elim id fun hended => ?_
    obtain ⟨a, ha, hfail⟩ := List.exists_of_findSome?_eq_some h
    obtain ⟨r, rfl⟩ := hended a ha
    cases r with
    | error e' => exact ⟨e', ha⟩
    | ok x => cases hfail

/-- Tasks that all return are gathered to their results. -/
theorem Valid.exits_eq_ok (hs : Valid ts s) {as : List α} (hreturn : ts.map Task.ending = as.map .ok)
    {r : Except ε (List α)} (h : Exits s r) : r = .ok as := by
  cases r with
  | ok bs =>
    have hbs := hs.exits_ok h
    rw [hreturn] at hbs
    rw [List.map_injective_iff.2 (fun _ _ => Except.ok.inj) hbs]
  | error e =>
    obtain ⟨e', he'⟩ := hs.exists_failed h
    obtain ⟨t, ht, hte⟩ := exists_mem_of_forall₂ hs.sound.flip _ he'
    obtain ⟨x, hx⟩ := Attempt.exists_ok_of_map hreturn t ht
    have hfailed : t.ending = .error (.failed e') := hte
    rw [hx] at hfailed
    cases hfailed

/-- An error that is raised is that of the first task that failed. -/
theorem Exits.error {e : ε} (h : Exits s (.error e)) : ∃ before a after,
    s.tasks = before ++ a :: after ∧ a.failure? = some e ∧ ∀ b ∈ before, b.failure? = none := by
  cases h with
  | raised _ h => exact List.findSome?_eq_some_iff.1 h

end Gathering

/-! ### Tasks with a timing -/

/-- Gathering fails with a failure that a task has when the first one is noticed. -/
theorem exists_of_gather_eq_failed {ts : List (Task ε α)} {e : ε}
    (h : gather ts = .error (.failed e)) : ∃ time, firstFailure? ts = some time ∧
      ts.findSome? (Task.failure? (time + noticeSteps)) = some e := by
  cases hfirst : firstFailure? ts with
  | none =>
    rw [gather, hfirst] at h
    obtain ⟨t, ht, he⟩ := Attempt.exists_of_mapM_eq_error h
    have hfails := (firstFailure?_eq_none_iff ts).1 hfirst t ht
    rw [he] at hfails
    cases hfails
  | some time =>
    obtain ⟨e', he', hfailed⟩ := exists_gather_eq_failed hfirst
    obtain rfl : e' = e := by
      rw [h] at hfailed
      cases hfailed
      rfl
    exact ⟨time, rfl, he'⟩

/-- Gathering that waits for ever waits for tasks none of which fails. -/
theorem not_fails_of_gather_eq_endless {ts : List (Task ε α)} (h : gather ts = .error .endless) :
    ∀ t ∈ ts, t.ending.fails = false := by
  refine (firstFailure?_eq_none_iff ts).1 ?_
  cases hfirst : firstFailure? ts with
  | none => rfl
  | some time =>
    obtain ⟨e, -, hfailed⟩ := exists_gather_eq_failed hfirst
    rw [h] at hfailed
    cases hfailed

namespace Fate

/-- Where a task that runs gets by itself. -/
def finished : Fate ε α → Fate ε α
  | running (.ok x) _ => ended (.ok x)
  | running (.error (.failed e)) _ => ended (.error e)
  | a => a

/-- Where a task that was cancelled gets. -/
def gone : Fate ε α → Fate ε α
  | leaving whenCancelled => stopped whenCancelled
  | a => a

theorem eq_or_step_finished (a : Fate ε α) : a = a.finished ∨ Step a a.finished := by
  cases a with
  | running ending whenCancelled =>
    rcases ending with ⟨e | _⟩ | x
    · exact Or.inr (.finish rfl)
    · exact Or.inl rfl
    · exact Or.inr (.finish rfl)
  | _ => exact Or.inl rfl

theorem eq_or_step_gone (a : Fate ε α) : a = a.gone ∨ Step a a.gone := by
  cases a with
  | leaving => exact Or.inr .leave
  | _ => exact Or.inl rfl

theorem isLeaving_gone (a : Fate ε α) : a.gone.isLeaving = false := by
  cases a <;> rfl

end Fate

namespace Task

/-- Where a task is at a given time if nobody cancels it. -/
def fateAt (time : Nat) (t : Task ε α) : Fate ε α :=
  if t.isDone time then t.fate.finished else t.fate

/-- Where a task is in the end if what is still running is cancelled at a given time. -/
def lastFate (time : Nat) (t : Task ε α) : Fate ε α := (t.fateAt time).cancel.gone

theorem failure?_lastFate (time : Nat) (t : Task ε α) :
    (t.lastFate time).failure? = t.failure? time := by
  unfold lastFate fateAt failure? outcome
  cases hd : t.isDone time with
  | true =>
    have hends : t.ending.ends = true := (Bool.and_eq_true_iff.1 hd).1
    obtain ⟨steps, ending, whenCancelled⟩ := t
    rcases ending with ⟨e | _⟩ | x
    · rfl
    · cases hends
    · rfl
  | false =>
    obtain ⟨steps, ending, whenCancelled⟩ := t
    rcases whenCancelled with _ | ⟨e | x⟩ <;> rfl

theorem fateAt_of_ending {time : Nat} {t : Task ε α} {r : Except ε α}
    (hr : t.ending = .ofExcept r) (hs : t.steps ≤ time) : t.fateAt time = .ended r := by
  have hends : t.ending.ends = true := by
    rw [hr]
    cases r <;> rfl
  have hd : t.isDone time = true := Bool.and_eq_true_iff.2 ⟨hends, decide_eq_true hs⟩
  rw [fateAt, if_pos hd, fate, hr]
  cases r <;> rfl

end Task

namespace Gathering

variable {ts : List (Task ε α)}

/-- Tasks that take a step or none bring gathering forward. -/
theorem runs_map {β : Type} {isAwake : Bool} {f g : β → Fate ε α}
    (h : ∀ x, f x = g x ∨ (f x).Step (g x)) (xs : List β) :
    Runs ⟨xs.map f, isAwake⟩ ⟨xs.map g, isAwake⟩ := by
  suffices ∀ before, Runs ⟨before ++ xs.map f, isAwake⟩ ⟨before ++ xs.map g, isAwake⟩ from this []
  induction xs with
  | nil => exact fun before => .refl
  | cons x xs ih =>
    intro before
    have hrest := ih (before ++ [g x])
    rw [List.append_assoc, List.append_assoc] at hrest
    rcases h x with hx | hx
    · rw [List.map_cons, hx]
      exact hrest
    · exact .head (.move hx) hrest

/-- The run in which the gatherer wakes up at a given time. -/
theorem runs_lastFate {time : Nat}
    (h : (∀ a ∈ ts.map (Task.fateAt time), a.isOver = true) ∨
      ∃ e, .ended (.error e) ∈ ts.map (Task.fateAt time)) :
    Runs (start ts) ⟨ts.map (Task.lastFate time), true⟩ := by
  have hbefore : Runs (start ts) ⟨ts.map (Task.fateAt time), false⟩ :=
    runs_map (fun t => by
      unfold Task.fateAt
      split_ifs
      · exact t.fate.eq_or_step_finished
      · exact Or.inl rfl) ts
  have hafter : Runs ⟨ts.map fun t => (t.fateAt time).cancel, true⟩
      ⟨ts.map (Task.lastFate time), true⟩ := runs_map (fun t => Fate.eq_or_step_gone _) ts
  have hwake := Step.wake h
  rw [List.map_map] at hwake
  exact hbefore.trans (.head hwake hafter)

/-- **What `gather` computes is the end of a run.** -/
theorem mayExit_of_gather {r : Except ε (List α)} (h : gather ts = .ofExcept r) : MayExit ts r := by
  cases r with
  | ok as =>
    have hending : ts.map Task.ending = as.map .ok := gather_eq_ok_iff.1 h
    have hat : ∀ t ∈ ts, ∃ x, t.fateAt (ts.map Task.steps).sum = .ended (.ok x) := fun t ht => by
      obtain ⟨x, hx⟩ := Attempt.exists_ok_of_map hending t ht
      exact ⟨x, Task.fateAt_of_ending hx (List.le_sum_of_mem (List.mem_map_of_mem ht))⟩
    have hover : ∀ a ∈ ts.map (Task.fateAt (ts.map Task.steps).sum), a.isOver = true := by
      intro a ha
      obtain ⟨t, ht, rfl⟩ := List.mem_map.1 ha
      obtain ⟨x, hx⟩ := hat t ht
      rw [hx]
      rfl
    have hruns := runs_lastFate (Or.inl hover)
    have hvalid := (valid_start ts).runs hruns
    have hlast : ∀ a ∈ ts.map (Task.lastFate (ts.map Task.steps).sum), a.isOver = true := by
      intro a ha
      obtain ⟨t, ht, rfl⟩ := List.mem_map.1 ha
      obtain ⟨x, hx⟩ := hat t ht
      rw [Task.lastFate, hx]
      rfl
    obtain ⟨r, hr⟩ := exists_exits hlast (hvalid.woken rfl)
    rw [hvalid.exits_eq_ok hending hr] at hr
    exact ⟨_, hruns, hr⟩
  | error e =>
    obtain ⟨time, htime, hfind⟩ := exists_of_gather_eq_failed h
    obtain ⟨t, ht, e', he', hs⟩ := exists_firstFailure htime
    have hat : t.fateAt (time + noticeSteps) = .ended (.error e') :=
      Task.fateAt_of_ending he' (by omega)
    refine ⟨_, runs_lastFate (Or.inr ⟨e', List.mem_map.2 ⟨t, ht, hat⟩⟩), .raised ?_ ?_⟩
    · intro a ha
      obtain ⟨t, -, rfl⟩ := List.mem_map.1 ha
      exact Fate.isLeaving_gone _
    · rw [List.findSome?_map, ← hfind]
      exact congrArg (fun f => ts.findSome? f) (funext fun t => t.failure?_lastFate _)

/-- A task at its end is there with the timing that brings it there. -/
theorem exists_retimed {t : Task ε α} {a : Fate ε α} (h : Fate.Of t a) (hover : a.isOver = true) :
    ∃ u : Task ε α, u.fate = t.fate ∧ u.lastFate noticeSteps = a ∧
      (u.steps ≤ noticeSteps → u.steps = 0) := by
  cases a with
  | ended r =>
    have hending : t.ending = .ofExcept r := h
    have hlast : Task.fateAt noticeSteps ⟨0, t.ending, t.whenCancelled⟩ = .ended r :=
      Task.fateAt_of_ending hending (Nat.zero_le _)
    refine ⟨⟨0, t.ending, t.whenCancelled⟩, rfl, ?_, fun _ => rfl⟩
    rw [Task.lastFate, hlast]
    rfl
  | stopped r =>
    have hwhen : r = t.whenCancelled := h
    refine ⟨⟨noticeSteps + 1, t.ending, t.whenCancelled⟩, rfl, ?_, fun hs => absurd hs (by simp)⟩
    have hd : Task.isDone noticeSteps ⟨noticeSteps + 1, t.ending, t.whenCancelled⟩ = false := by
      simp [Task.isDone]
    rw [Task.lastFate, Task.fateAt, hd, hwhen]
    rfl
  | running | leaving => cases hover

theorem exists_retimed_all {tasks : List (Fate ε α)} (h : List.Forall₂ Fate.Of ts tasks)
    (hover : ∀ a ∈ tasks, a.isOver = true) :
    ∃ us : List (Task ε α), us.map Task.fate = ts.map Task.fate ∧
      us.map (Task.lastFate noticeSteps) = tasks ∧
      ∀ u ∈ us, u.steps ≤ noticeSteps → u.steps = 0 := by
  induction h with
  | nil => exact ⟨[], rfl, rfl, by simp⟩
  | @cons t a ts tasks hta _ ih =>
    obtain ⟨u, hu, hlast, hsteps⟩ := exists_retimed hta (hover a List.mem_cons_self)
    obtain ⟨us, hus, hlasts, hall⟩ := ih fun b hb => hover b (List.mem_cons_of_mem _ hb)
    refine ⟨u :: us, by rw [List.map_cons, List.map_cons, hu, hus],
      by rw [List.map_cons, hlast, hlasts], fun v hv => ?_⟩
    rcases List.mem_cons.1 hv with rfl | hv
    · exact hsteps
    · exact hall v hv

theorem exists_of_lastFate_eq_failed {time : Nat} {t : Task ε α} {e : ε}
    (h : t.lastFate time = .ended (.error e)) :
    t.ending = .error (.failed e) ∧ t.steps ≤ time := by
  unfold Task.lastFate Task.fateAt at h
  cases hd : t.isDone time with
  | false =>
    rw [hd] at h
    cases h
  | true =>
    obtain ⟨hends, hs⟩ := Bool.and_eq_true_iff.1 hd
    rw [hd] at h
    refine ⟨?_, of_decide_eq_true hs⟩
    obtain ⟨steps, ending, whenCancelled⟩ := t
    rcases ending with ⟨e' | _⟩ | x
    · cases h
      rfl
    · cases hends
    · cases h

/-- **The ends of all runs** are what `gather` computes with any timing of the tasks. -/
theorem mayExit_iff {r : Except ε (List α)} :
    MayExit ts r ↔ ∃ us, start us = start ts ∧ gather us = .ofExcept r := by
  constructor
  · rintro ⟨s, hruns, hexit⟩
    have hvalid := (valid_start ts).runs hruns
    cases r with
    | ok as => exact ⟨ts, rfl, gather_eq_ok_iff.2 (hvalid.exits_ok hexit)⟩
    | error e =>
      obtain ⟨us, hfate, hlast, hsteps⟩ :=
        exists_retimed_all hvalid.sound (hvalid.isOver hexit)
      refine ⟨us, by rw [start, start, hfate], ?_⟩
      obtain ⟨e', he'⟩ := hvalid.exists_failed hexit
      rw [← hlast] at he'
      obtain ⟨u, hu, hue⟩ := List.mem_map.1 he'
      obtain ⟨hfailed, hle⟩ := exists_of_lastFate_eq_failed hue
      have hfirst : firstFailure? us = some 0 := by
        refine List.min?_eq_some_iff.2 ⟨List.mem_map.2 ⟨u, List.mem_filter.2 ⟨hu, ?_⟩, ?_⟩,
          fun n _ => Nat.zero_le n⟩
        · rw [hfailed]
          rfl
        · exact hsteps u hu hle
      have hfind : us.findSome? (Task.failure? (0 + noticeSteps)) = some e := by
        cases hexit with
        | raised _ h =>
          simp only at hlast
          rw [← hlast, List.findSome?_map] at h
          rw [← h]
          exact congrArg (fun f => us.findSome? f)
            (funext fun t => (t.failure?_lastFate noticeSteps).symm)
      rw [gather, hfirst]
      simp only [hfind]
      rfl
  · rintro ⟨us, hstart, hgather⟩
    obtain ⟨s, hruns, hexit⟩ := mayExit_of_gather hgather
    exact ⟨s, hstart ▸ hruns, hexit⟩

/-- Gathering waits for ever exactly if no run comes to an end. -/
theorem gather_eq_endless_iff : gather ts = .error .endless ↔ ∀ r, ¬ MayExit ts r := by
  constructor
  · rintro h r ⟨s, hruns, hexit⟩
    have hvalid := (valid_start ts).runs hruns
    cases r with
    | ok as =>
      rw [gather_eq_ok_iff.2 (hvalid.exits_ok hexit)] at h
      cases h
    | error e =>
      obtain ⟨e', he'⟩ := hvalid.exists_failed hexit
      obtain ⟨t, ht, hte⟩ := exists_mem_of_forall₂ hvalid.sound.flip _ he'
      have hfails := not_fails_of_gather_eq_endless h t ht
      rw [show t.ending = .error (.failed e') from hte] at hfails
      cases hfails
  · intro h
    rcases hg : gather ts with ⟨e | _⟩ | as
    · exact absurd (mayExit_of_gather (r := .error e) hg) (h _)
    · rfl
    · exact absurd (mayExit_of_gather (r := .ok as) hg) (h _)

/-! ### The guarantee -/

/-- **What can be relied on** in every state of every run. -/
structure Guarantee (ts : List (Task ε α)) (s : Gathering ε α) : Prop where
  /-- Every task is where its own behaviour can bring it. -/
  sound : List.Forall₂ Fate.Of ts s.tasks
  /-- Where nothing more can happen, gathering is at its end, unless no task fails and one has no
  end. -/
  goesOn : (∀ t, ¬ Step s t) → (∃ r, Exits s r) ∨
    (∀ t ∈ ts, t.ending.fails = false) ∧ ∃ t ∈ ts, t.ending = .error .endless
  /-- If all tasks return, none is ever cancelled, and only their results come out, in order. -/
  returned : ∀ as : List α, ts.map Task.ending = as.map .ok →
    (∀ a ∈ s.tasks, a.isCancelled = false) ∧ ∀ r, Exits s r → r = .ok as
  /-- Otherwise no list comes out, but the failure of the first task that ended with one. -/
  failed : (¬ ∃ as : List α, ts.map Task.ending = as.map .ok) → ∀ r, Exits s r →
    ∃ before a after e, s.tasks = before ++ a :: after ∧ a.failure? = some e ∧
      (∀ b ∈ before, b.failure? = none) ∧ r = .error e
  /-- Tasks are cancelled because one has failed. -/
  noticed : (∃ a ∈ s.tasks, a.isCancelled = true) → ∃ e, .ended (.error e) ∈ s.tasks
  /-- From then on all tasks that were not at their end are cancelled. -/
  cancelled : s.isAwake = true → ∀ a ∈ s.tasks, a.isRunning = false
  /-- At the end of gathering no task is at work. -/
  atRest : ∀ r, Exits s r → ∀ a ∈ s.tasks, a.isOver = true

theorem Valid.guarantee {s : Gathering ε α} (hs : Valid ts s) : Guarantee ts s where
  sound := hs.sound
  goesOn := hs.exits_or_endless
  returned := fun _ has =>
    ⟨hs.isCancelled_eq_false (Attempt.exists_ok_of_map has), fun _ hr => hs.exits_eq_ok has hr⟩
  failed := fun hno r hr => by
    cases r with
    | ok as => exact absurd ⟨as, hs.exits_ok hr⟩ hno
    | error e =>
      obtain ⟨before, a, after, htasks, ha, hbefore⟩ := hr.error
      exact ⟨before, a, after, e, htasks, ha, hbefore, rfl⟩
  noticed := by
    rintro ⟨a, ha, hc⟩
    cases hawake : s.isAwake with
    | false =>
      rw [hs.kept hawake a ha] at hc
      cases hc
    | true =>
      refine (hs.woken hawake).resolve_right fun hended => ?_
      obtain ⟨r, rfl⟩ := hended a ha
      cases hc
  cancelled := hs.cancelled
  atRest := fun _ => hs.isOver

/-- **Tasks are gathered, or all are cancelled.** Whatever the tasks do and in whatever order, every
run keeps the guarantee and comes to an end or waits for a task that has none; and the ends of the
runs are what `gather` computes with any timing of the tasks. -/
theorem gathers_or_cancels (ts : List (Task ε α)) :
    (WellFounded fun t s : Gathering ε α => Step s t) ∧
      (∀ s, Runs (start ts) s → Guarantee ts s) ∧
      (∀ r, MayExit ts r ↔ ∃ us, start us = start ts ∧ gather us = .ofExcept r) ∧
      (gather ts = .error .endless ↔ ∀ r, ¬ MayExit ts r) :=
  ⟨wellFounded_step, fun _ hs => ((valid_start ts).runs hs).guarantee, fun _ => mayExit_iff,
    gather_eq_endless_iff⟩

/-- A task that fails while it is cancelled comes before the one that failed first. -/
example : gather [⟨9, .error .endless, some (.error "again")⟩, ⟨1, .error (.failed "first"), none⟩,
    ⟨0, .ok (), none⟩] = .error (.failed "again") := rfl

end Gathering

end SlidePress
