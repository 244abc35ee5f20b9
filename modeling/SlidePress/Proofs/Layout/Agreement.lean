import SlidePress.Layout.Deck
import SlidePress.Proofs.Layout.Batch

/-! # Slides side by side and one after the other

What a deck is laid out to does not depend on how many slides are laid out at a time, nor on the
order in which calls are answered; only where several slides fail is the error one or another of
theirs. `Batch` goes through all orders of events, and carrying out a deck at given paces is one of
them (`exists_mayEnd_layOutAt`). -/

namespace SlidePress

namespace Course

theorem ending_mapM {α β : Type} (f : α → Course β) :
    ∀ xs : List α, (xs.mapM f).ending = xs.mapM fun x => (f x).ending
  | [] => rfl
  | x :: xs => by
    rw [List.mapM_cons, List.mapM_cons, ending_bind]
    refine congrArg _ (funext fun y => ?_)
    rw [ending_bind, ending_mapM f xs]
    rfl

end Course

variable {answer : Call → Ending SlideError String} {limit : Nat}

/-! ### One after the other -/

/-- The task of a plan: it ends as the plan may, and with nothing when it is cancelled before. -/
def TaskOf (answer : Call → Ending SlideError String) (p : Plan) (t : Task SlideError String) :
    Prop :=
  (∃ r, t.ending = Ending.ofExcept r ∧ p.Ends answer r) ∧ t.whenCancelled = none

theorem TaskOf.ends {p : Plan} {t : Task SlideError String} (h : TaskOf answer p t) :
    t.ending.ends = true := by
  obtain ⟨⟨r, hr, -⟩, -⟩ := h
  rw [hr]
  cases r <;> rfl

theorem insertTime_ne_nil (time : Nat) : ∀ times, insertTime time times ≠ []
  | [] => nofun
  | t :: times => by
    rw [insertTime]
    split <;> nofun

/-- Where there is a place and all work comes to an end, all of it begins. -/
theorem exists_startTimes : ∀ (works free : List Nat), free ≠ [] →
    ∃ times : List Nat, startTimes free (works.map some) = times.map some
  | _, [], h => absurd rfl h
  | [], _ :: _, _ => ⟨[], rfl⟩
  | work :: works, time :: free, _ => by
    obtain ⟨times, ht⟩ := exists_startTimes works _
      (insertTime_ne_nil ((if time = 0 then 0 else time + 1) + work) free)
    exact ⟨_ :: times, congrArg _ ht⟩

namespace Press

variable {press : Press}

/-- When the slides of a deck begin, if each of them comes to an end. -/
theorem exists_starts (limit : Nat) {cs : List (Course String)}
    (h : ∀ c ∈ cs, c.ending.ends = true) (hlimit : 1 ≤ limit) :
    ∃ times : List Nat, startTimes (List.replicate (min limit cs.length) 0)
      (cs.map fun c => if c.ending.ends then some c.steps else none) = times.map some ∧
      times.length = cs.length := by
  have hworks : (cs.map fun c => if c.ending.ends then some c.steps else none) =
      (cs.map Course.steps).map some := by
    rw [List.map_map]
    exact List.map_congr_left fun c hc => if_pos (h c hc)
  have hstarts : ∃ times : List Nat, startTimes (List.replicate (min limit cs.length) 0)
      ((cs.map Course.steps).map some) = times.map some := by
    by_cases hn : cs = []
    · subst hn
      exact ⟨[], rfl⟩
    · have := List.length_pos_of_ne_nil hn
      refine exists_startTimes _ _ fun he => ?_
      rw [List.replicate_eq_nil_iff] at he
      omega
  obtain ⟨times, ht⟩ := hstarts
  refine ⟨times, hworks ▸ ht, ?_⟩
  have := congrArg List.length ht
  simpa using this.symm

/-- The plans of the slides of a deck. -/
def plans (press : Press) (d : Deck) : List Plan := (placed d).map fun x => press.plan x.1 x.2

/-- What a run over a deck may end with. -/
def MayEnd (press : Press) (limit : Nat) (d : Deck) (r : Except SlideError (List String)) : Prop :=
  Batch.MayEnd press.answer limit (press.plans d) r

/-- Laid out for itself, a slide can return a body. -/
def ReturnsAlone (press : Press) (x : SlidePlace × Slide) (body : String) : Prop :=
  ∃ pace, (press.layOut pace x.1 x.2).ending = .ok body

/-- The template of slides that cite. -/
def quoteTemplate : Registered :=
  ⟨⟨"quote", "", "text", [], "\x7b\x7b refs.cite(content.id) \x7d\x7d", none, none⟩, .mapping⟩

/-- A press for slides that cite, where one of the references cannot be found. -/
def quoting : Press where
  templates := Registry.empty.register quoteTemplate
  icon := fun _ => .ok "*"
  cite := fun id => if id = "lost" then .error (.failed (.fault .noKey)) else .ok ("(" ++ id ++ ")")
  expand := fun s => .ok s

/-- A slide that cites. -/
def quote (id : String) : Slide :=
  ⟨"quote", Entries.ofNames [ ("id", .str id)], none, none, none⟩

end Press

end SlidePress
