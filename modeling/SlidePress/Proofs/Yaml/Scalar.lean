import SlidePress.Proofs.Attempt
import SlidePress.Yaml.Data

/-! # What can be wrong with a scalar

The text of a scalar is converted to the type of its tag. Texts of most types always can be, or are
malformed if they cannot. Truth values, numbers and points in time have faults of their own
(`Tag.faults`): a word that is no truth value, a number without digits, digits that make no number, a
double in base sixty with more places than a double has, a text that is no timestamp, a date that is
not in the calendar. Those are all there are (`mem_faults_of_scalarOf`). -/

namespace SlidePress

namespace Attempt

variable {α β : Type} {fs : List Fault}

/-- A failure has one of the given causes. -/
def FailsOnly (fs : List Fault) (r : Attempt α) : Prop := ∀ f, r = .error f → f ∈ fs

namespace FailsOnly

theorem ok (a : α) : FailsOnly fs (.ok a : Attempt α) := fun _ h => by cases h

theorem error {f : Fault} (h : f ∈ fs) : FailsOnly fs (.error f : Attempt α) := fun g hg => by
  cases hg
  exact h

theorem ofOption {f : Fault} (h : f ∈ fs) (o : Option α) : FailsOnly fs (Attempt.ofOption f o) := by
  cases o with
  | none => exact .error h
  | some a => exact .ok a

theorem bind {r : Attempt α} {g : α → Attempt β} (hr : FailsOnly fs r)
    (hg : ∀ a, r = .ok a → FailsOnly fs (g a)) : FailsOnly fs (r >>= g) := by
  cases r with
  | ok a => exact hg a rfl
  | error f => exact .error (hr f rfl)

theorem map {r : Attempt α} (hr : FailsOnly fs r) (g : α → β) : FailsOnly fs (r.map g) := by
  cases r with
  | ok a => exact .ok (g a)
  | error f => exact .error (hr f rfl)

theorem mapM {g : α → Attempt β} {xs : List α} (h : ∀ x ∈ xs, FailsOnly fs (g x)) :
    FailsOnly fs (xs.mapM g) := by
  intro f hf
  obtain ⟨x, hx, hfx⟩ := exists_of_mapM_eq_error hf
  exact h x hx f hfx

end FailsOnly

end Attempt

namespace Yaml

open Attempt (FailsOnly)

/-- The faults that a text of a type can have, beside being malformed. -/
def Tag.faults : Tag → List Fault
  | .bool => [.noKey]
  | .int => [.noIndex, .badValue]
  | .float => [.noIndex, .badValue, .overflow]
  | .timestamp => [.noAttribute, .badValue]
  | _ => []

namespace Document

theorem failsOnly_intOf (s : String) : FailsOnly [.noIndex, .badValue] (intOf s) := by
  unfold intOf
  have hread : ∀ (base : Nat) (ds : List Char) (signed : Int → Int),
      FailsOnly [.noIndex, .badValue]
        ((Attempt.ofOption .badValue (Number.readInt base ds)).map signed) :=
    fun base ds signed => (FailsOnly.ofOption (by simp) _).map signed
  dsimp only
  split
  · exact .error (by simp)
  · split
    · exact .ok 0
    · exact hread _ _ _
    · exact hread _ _ _
    · exact hread _ _ _
    · exact .error (by simp)
    · split
      · refine (FailsOnly.mapM fun p _ => FailsOnly.ofOption (by simp) _).bind fun parts _ => ?_
        exact .ok _
      · exact hread _ _ _

theorem failsOnly_sumOfSixties : ∀ (place : Int) (total : Float) (ps : List Float),
    FailsOnly [.overflow] (sumOfSixties place total ps)
  | _, total, [] => .ok total
  | place, total, p :: ps =>
    (FailsOnly.ofOption (by simp) _).bind fun _ _ => failsOnly_sumOfSixties _ _ ps

theorem failsOnly_floatOf (s : String) : FailsOnly [.noIndex, .badValue, .overflow] (floatOf s) := by
  unfold floatOf
  have hread : ∀ ds : List Char, FailsOnly [.noIndex, .badValue, .overflow]
      (Attempt.ofOption .badValue (Number.readFloat ds)) :=
    fun ds => FailsOnly.ofOption (by simp) _
  have hsum : ∀ parts : List Float, FailsOnly [.noIndex, .badValue, .overflow]
      (sumOfSixties 1 0.0 parts.reverse) := by
    intro parts f hf
    have hmem : f ∈ [Fault.overflow] := failsOnly_sumOfSixties _ _ _ f hf
    simpa using .inr (.inr (List.mem_singleton.1 hmem))
  dsimp only
  split
  · exact .error (by simp)
  · split
    · exact .ok _
    · split
      · exact .ok _
      · split
        · refine (FailsOnly.mapM fun p _ => hread p).bind fun parts _ => ?_
          exact (hsum parts).bind fun total _ => .ok _
        · exact (hread _).map _

theorem failsOnly_timeOf (s : String) : FailsOnly [.noAttribute, .badValue] (timeOf s) := by
  unfold timeOf
  dsimp only
  refine (FailsOnly.ofOption (by simp) _).bind fun p _ => ?_
  split
  · exact (FailsOnly.ofOption (by simp) _).map _
  · refine (FailsOnly.ofOption (by simp) _).bind fun date _ => ?_
    exact (FailsOnly.ofOption (by simp) _).map _

theorem failsOnly_bytesOf (s : String) : FailsOnly [.malformedYaml] (bytesOf s) := by
  unfold bytesOf
  split
  · exact .error (by simp)
  · exact FailsOnly.ofOption (by simp) _

/-- **What can be wrong with a scalar**: it is malformed, or has one of the faults of its type. -/
theorem mem_faults_of_scalarOf {tag : Tag} {s : String} {f : Fault}
    (h : scalarOf tag s = .error f) : f = .malformedYaml ∨ f ∈ tag.faults := by
  cases tag with
  | bool =>
    have hbool : FailsOnly [.noKey] (Attempt.ofOption .noKey (boolOf? s)) :=
      FailsOnly.ofOption (by simp) _
    exact .inr (hbool.map _ f h)
  | int => exact .inr ((failsOnly_intOf s).map _ f h)
  | float => exact .inr ((failsOnly_floatOf s).map _ f h)
  | timestamp => exact .inr (failsOnly_timeOf s f h)
  | binary => exact .inl (List.mem_singleton.1 ((failsOnly_bytesOf s).map _ f h))
  | null => cases h
  | str => cases h
  | _ =>
    cases h
    exact .inl rfl

example : scalarOf .timestamp "2024-13-45" = .error .badValue := rfl

end Document

end Yaml

end SlidePress
