/-! # Gathering tasks that run together

Tasks that were started together are gathered: either all of them return, and the gatherer has their
results in the order of the tasks, or one fails, which the gatherer notices a little later. It then
cancels what is still running and fails with the first failure in the order of the tasks, whichever
task failed first in time. A task may also run until it is cancelled.

* `gather`: what comes of gathering tasks.
* `Task.isCancelled`: the tasks that are cancelled.
* `gather_of_forall_ok`: tasks that all return are gathered to their results, in order. -/

namespace SlidePress

/-- Why there is no result. -/
inductive Halt (ε : Type) where
  | failed (e : ε)
  /-- It goes on until it is cancelled. -/
  | endless
  deriving DecidableEq, Repr

/-- How something ends by itself. -/
abbrev Ending (ε α : Type) := Except (Halt ε) α

namespace Ending

variable {ε α : Type}

/-- A result or failure as an ending. -/
def ofExcept (r : Except ε α) : Ending ε α := r.mapError Halt.failed

/-- Whether something fails by itself. -/
def fails : Ending ε α → Bool
  | .error (.failed _) => true
  | _ => false

/-- Whether something ends by itself. -/
def ends : Ending ε α → Bool
  | .error .endless => false
  | _ => true

end Ending

/-- A task: how it ends by itself and after how many steps, and how it ends when it is cancelled
before; most tasks have neither a result nor a failure then. -/
structure Task (ε α : Type) where
  steps : Nat
  ending : Ending ε α
  whenCancelled : Option (Except ε α) := none

namespace Task

variable {ε α : Type}

/-- Whether a task has ended by itself by a given time. -/
def isDone (time : Nat) (t : Task ε α) : Bool := t.ending.ends && decide (t.steps ≤ time)

/-- Whether a task is cancelled at a given time. -/
def isCancelled (time : Nat) (t : Task ε α) : Bool := !t.isDone time

/-- What a task has in the end if what is still running is cancelled at a given time. -/
def outcome (time : Nat) (t : Task ε α) : Option (Except ε α) :=
  if t.isDone time then
    match t.ending with
    | .ok a => some (.ok a)
    | .error (.failed e) => some (.error e)
    | .error .endless => none
  else t.whenCancelled

/-- The failure that a task has in the end. -/
def failure? (time : Nat) (t : Task ε α) : Option ε :=
  match t.outcome time with
  | some (.error e) => some e
  | _ => none

end Task

variable {ε α : Type}

/-- When the first failure happens. -/
def firstFailure? (ts : List (Task ε α)) : Option Nat :=
  ((ts.filter fun t => t.ending.fails).map Task.steps).min?

/-- When the last task ends. -/
def lastEnd (ts : List (Task ε α)) : Nat := (ts.map Task.steps).foldl max 0

/-- How many steps after a task's end the gatherer notices it. -/
def noticeSteps : Nat := 2

/-- When the gatherer goes on, if every task ends by itself or one fails. -/
def noticeTime (ts : List (Task ε α)) : Nat := (firstFailure? ts).getD (lastEnd ts) + noticeSteps

/-- What comes of gathering tasks. -/
def gather (ts : List (Task ε α)) : Ending ε (List α) :=
  match firstFailure? ts with
  | some time =>
    match ts.findSome? (Task.failure? (time + noticeSteps)) with
    | some e => .error (.failed e)
    | none => .error .endless
  | none => ts.mapM Task.ending

theorem firstFailure?_eq_none_iff (ts : List (Task ε α)) :
    firstFailure? ts = none ↔ ∀ t ∈ ts, t.ending.fails = false := by
  simp [firstFailure?, List.min?_eq_none_iff, List.filter_eq_nil_iff]

/-- Tasks that all return are gathered to their results, in order. -/
theorem gather_of_forall_ok (ts : List (Task ε α)) (as : List α)
    (h : ts.map Task.ending = as.map Except.ok) : gather ts = .ok as := by
  have hmap : ∀ (ts : List (Task ε α)) (as : List α),
      ts.map Task.ending = as.map Except.ok → ts.mapM Task.ending = .ok as := by
    intro ts
    induction ts with
    | nil => intro as h; cases as <;> simp_all [pure, Except.pure]
    | cons t ts ih =>
      intro as h
      cases as with
      | nil => simp at h
      | cons a as =>
        simp only [List.map_cons, List.cons.injEq] at h
        simp [List.mapM_cons, h.1, ih as h.2, bind, Except.bind, pure, Except.pure]
  have hnone : firstFailure? ts = none := by
    rw [firstFailure?_eq_none_iff]
    intro t ht
    have : t.ending ∈ as.map Except.ok := h ▸ List.mem_map_of_mem ht
    obtain ⟨a, -, ha⟩ := List.mem_map.1 this
    rw [← ha]
    rfl
  simp [gather, hnone, hmap ts as h]

end SlidePress
