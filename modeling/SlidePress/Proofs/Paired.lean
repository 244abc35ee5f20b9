import Mathlib.Data.List.Forall2

/-! # Lists beside each other

`List.Forall₂ R xs ys` pairs the members of two lists of one length.

* `exists_forall₂`, `exists_map_eq`: partners for all members are partners in one list.
* `exists_mem_of_forall₂`, `exists_getElem?_of_forall₂`: the partner of a member and of a position.
* `forall₂_replace`, `pairwise_replace`: what is left of a relation when one member changes. -/

namespace SlidePress

variable {α β : Type} {R : α → β → Prop}

theorem exists_forall₂ :
    ∀ {xs : List α}, (∀ x ∈ xs, ∃ y, R x y) → ∃ ys, List.Forall₂ R xs ys
  | [], _ => ⟨[], .nil⟩
  | x :: xs, h => by
    obtain ⟨y, hy⟩ := h x List.mem_cons_self
    obtain ⟨ys, hys⟩ := exists_forall₂ fun z hz => h z (List.mem_cons_of_mem x hz)
    exact ⟨y :: ys, .cons hy hys⟩

theorem exists_mem_of_forall₂ :
    ∀ {xs : List α} {ys : List β}, List.Forall₂ R xs ys → ∀ x ∈ xs, ∃ y ∈ ys, R x y
  | _, _, .nil, _, h => absurd h List.not_mem_nil
  | _, _, .cons hxy hs, x, h => by
    rcases List.mem_cons.1 h with rfl | h
    · exact ⟨_, List.mem_cons_self, hxy⟩
    · obtain ⟨y, hy, h⟩ := exists_mem_of_forall₂ hs x h
      exact ⟨y, List.mem_cons_of_mem _ hy, h⟩

theorem exists_getElem?_of_forall₂ {xs : List α} {ys : List β} (h : List.Forall₂ R xs ys) {i : Nat}
    {x : α} (hx : xs[i]? = some x) : ∃ y, ys[i]? = some y ∧ R x y := by
  induction h generalizing i with
  | nil => cases hx
  | cons hr _ ih =>
    cases i with
    | zero =>
      cases hx
      exact ⟨_, rfl, hr⟩
    | succ i => exact ih hx

/-- A list all of whose members are images is the image of a list. -/
theorem exists_map_eq {f : β → α} {xs : List α} (h : ∀ x ∈ xs, ∃ y, x = f y) :
    ∃ ys : List β, xs = ys.map f := by
  obtain ⟨ys, hys⟩ := exists_forall₂ h
  exact ⟨ys, by rwa [← List.forall₂_eq_eq_eq, List.forall₂_map_right_iff]⟩

/-- The second list is the image of the first one exactly if it consists of the images. -/
theorem forall₂_iff_map {P : α → Prop} {f : α → β} {as : List α} {bs : List β} :
    List.Forall₂ (fun a b => P a ∧ b = f a) as bs ↔ (∀ a ∈ as, P a) ∧ bs = as.map f := by
  rw [List.forall₂_and_left, eq_comm (a := bs), ← List.forall₂_eq_eq_eq, List.forall₂_map_left_iff]
  simp only [eq_comm]

/-- A search for what shows on both partners finds partners. -/
theorem forall₂_find? {p : α → Bool} {q : β → Bool} (hpq : ∀ a b, R a b → p a = q b) :
    ∀ {as : List α} {bs : List β}, List.Forall₂ R as bs →
      (as.find? p = none ∧ bs.find? q = none) ∨
        ∃ a b, as.find? p = some a ∧ bs.find? q = some b ∧ R a b
  | _, _, .nil => .inl ⟨rfl, rfl⟩
  | a :: as, b :: bs, .cons hab h => by
    rw [List.find?_cons, List.find?_cons, hpq a b hab]
    cases q b
    · exact forall₂_find? hpq h
    · exact .inr ⟨a, b, rfl, rfl, hab⟩

/-! ### Lists that differ in one place -/

variable {S : β → β → Prop}

theorem forall₂_replace {a b : β} {after : List β} (hab : ∀ x, R x a → R x b) :
    ∀ {before : List β} {xs : List α}, List.Forall₂ R xs (before ++ a :: after) →
      List.Forall₂ R xs (before ++ b :: after)
  | [], _, .cons h hs => .cons (hab _ h) hs
  | _ :: _, _, .cons h hs => .cons h (forall₂_replace hab hs)

theorem exists_of_forall₂_append {a : β} {after : List β} :
    ∀ {before : List β} {xs : List α}, List.Forall₂ R xs (before ++ a :: after) →
      ∃ xs₁ x xs₂, xs = xs₁ ++ x :: xs₂ ∧ List.Forall₂ R xs₁ before ∧ R x a
  | [], _, .cons h _ => ⟨[], _, _, rfl, .nil, h⟩
  | _ :: _, _, .cons h hs => by
    obtain ⟨xs₁, x, xs₂, rfl, hbefore, hx⟩ := exists_of_forall₂_append hs
    exact ⟨_ :: xs₁, x, xs₂, rfl, .cons h hbefore, hx⟩

theorem pairwise_replace {a b : β} {before after : List β}
    (h : (before ++ a :: after).Pairwise S) (hbefore : ∀ x ∈ before, S x a → S x b)
    (hafter : ∀ x ∈ after, S a x → S b x) : (before ++ b :: after).Pairwise S := by
  rw [List.pairwise_append, List.pairwise_cons] at h ⊢
  obtain ⟨h₁, ⟨h₂, h₃⟩, h₄⟩ := h
  refine ⟨h₁, ⟨fun x hx => hafter x hx (h₂ x hx), h₃⟩, fun x hx y hy => ?_⟩
  rcases List.mem_cons.1 hy with rfl | hy
  · exact hbefore x hx (h₄ x hx a List.mem_cons_self)
  · exact h₄ x hx y (List.mem_cons_of_mem a hy)

theorem mem_replace {a b x : β} {before after : List β} (h : x ∈ before ++ b :: after) :
    x = b ∨ x ∈ before ++ a :: after := by
  rw [List.mem_append, List.mem_cons] at h ⊢
  rcases h with h | h | h
  · exact Or.inr (Or.inl h)
  · exact Or.inl h
  · exact Or.inr (Or.inr (Or.inr h))

end SlidePress
