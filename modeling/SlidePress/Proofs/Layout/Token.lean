import Mathlib.Data.List.Infix
import SlidePress.Layout.Slide
import SlidePress.Proofs.Text.Replace

/-! # The tokens of requests

A token is a stem for its kind, the digits of its number, and three underscores. Three underscores
in a row stand at its beginning and its end and nowhere else (`token_inner`), no token begins with
another one (`token_unique`), and every stem holds the marker `_PLACEHOLDER_` behind its first three
characters (`marker_of_stem`). From these three facts alone: in a text of written-out pieces and
tokens a token begins nowhere but where it was put, as long as no marker is written out
(`not_token_isPrefix`). -/

namespace SlidePress

/-- A part of a text: written out, or a token for something. -/
inductive Piece (τ : Type) where
  | lit (s : String)
  | token (t : τ)

namespace Piece

variable {τ : Type}

/-- The text of some pieces, where `f` says what the tokens stand for. -/
def spell (f : τ → List Char) : List (Piece τ) → List Char
  | [] => []
  | lit s :: ps => s.toList ++ spell f ps
  | token t :: ps => f t ++ spell f ps

@[simp] theorem spell_nil (f : τ → List Char) : spell f [] = [] := rfl

@[simp] theorem spell_lit (f : τ → List Char) (s : String) (ps : List (Piece τ)) :
    spell f (lit s :: ps) = s.toList ++ spell f ps := rfl

@[simp] theorem spell_token (f : τ → List Char) (t : τ) (ps : List (Piece τ)) :
    spell f (token t :: ps) = f t ++ spell f ps := rfl

theorem spell_append (f : τ → List Char) :
    ∀ ps qs : List (Piece τ), spell f (ps ++ qs) = spell f ps ++ spell f qs
  | [], _ => rfl
  | lit s :: ps, qs => by simp [spell_append f ps qs]
  | token t :: ps, qs => by simp [spell_append f ps qs]

theorem spell_flatMap {α : Type} (f : τ → List Char) (g : α → List (Piece τ)) :
    ∀ xs : List α, spell f (xs.flatMap g) = xs.flatMap fun x => spell f (g x)
  | [] => rfl
  | x :: xs => by
    rw [List.flatMap_cons, List.flatMap_cons, spell_append, spell_flatMap f g xs]

end Piece

namespace Requests

/-- What every token holds and no text that is written out may hold. -/
def marker : List Char := "_PLACEHOLDER_".toList

/-- What the tokens of a kind begin with. -/
def stem : RequestKind → List Char
  | .icon => "___ICON_PLACEHOLDER_".toList
  | .cite => "___REFS_CITE_PLACEHOLDER_".toList
  | .expand => "___REFS_EXPAND_PLACEHOLDER_".toList

/-- The token of a request, by its kind and number. -/
def token : RequestKind → Nat → String
  | .icon, n => iconToken n
  | .cite, n => citeToken n
  | .expand, n => expandToken n

/-- The characters of a token. -/
def tok (t : RequestKind × Nat) : List Char := (token t.1 t.2).toList

theorem toList_numbered (s : String) (n : Nat) :
    (s ++ toString n ++ "___").toList = s.toList ++ (Nat.toDigits 10 n ++ ['_', '_', '_']) := by
  rw [String.toList_append, String.toList_append, Nat.toString_eq_repr, Nat.toList_repr,
    List.append_assoc]
  rfl

theorem tok_eq (t : RequestKind × Nat) :
    tok t = stem t.1 ++ (Nat.toDigits 10 t.2 ++ ['_', '_', '_']) := by
  obtain ⟨k, n⟩ := t
  cases k <;> exact toList_numbered _ n

theorem tok_ne_nil (t : RequestKind × Nat) : tok t ≠ [] := by
  simp [tok_eq]

theorem digit_ne_underscore {n : Nat} {c : Char} (h : c ∈ Nat.toDigits 10 n) : c ≠ '_' := by
  rintro rfl
  exact Nat.underscore_not_in_toDigits h

theorem toDigits_injective {m n : Nat} (h : Nat.toDigits 10 m = Nat.toDigits 10 n) : m = n := by
  rw [← Nat.ofDigitChars_ten_toDigits (n := m), h, Nat.ofDigitChars_ten_toDigits]

theorem take_tok (t : RequestKind × Nat) : (tok t).take 3 = ['_', '_', '_'] := by
  obtain ⟨k, n⟩ := t
  rw [tok_eq]
  cases k <;> rfl

/-- The first three characters of a token are underscores. -/
theorem tok_getElem? (t : RequestKind × Nat) {i : ℕ} (hi : i < 3) : (tok t)[i]? = some '_' := by
  rw [← List.getElem?_take_of_lt hi, take_tok]
  match i, hi with
  | 0, _ => rfl
  | 1, _ => rfl
  | 2, _ => rfl

/-- In a stem, three underscores in a row stand at the beginning only; a last underscore may be the
first of three, were it not for the digit behind it. -/
theorem stem_inner (k : RequestKind) : ∀ j < (stem k).length, 1 ≤ j →
    ∃ i < 3, (stem k).length = j + i ∨ ∃ c, (stem k)[j + i]? = some c ∧ c ≠ '_' := by
  have hdec : ∀ j < (stem k).length, 1 ≤ j → ∃ i < 3, (stem k).length = j + i ∨
      (stem k)[j + i]?.any (· != '_') = true := by
    cases k <;> decide
  intro j hj h1
  obtain ⟨i, hi, h⟩ := hdec j hj h1
  refine ⟨i, hi, h.imp_right fun ha => ?_⟩
  rw [Option.any_eq_true] at ha
  obtain ⟨c, hc, hne⟩ := ha
  exact ⟨c, hc, by simpa using hne⟩

/-- **Three underscores in a row** begin nowhere inside a token, its end apart. -/
theorem token_inner (t : RequestKind × Nat) {j : ℕ} (h1 : 1 ≤ j)
    (hj : j < (stem t.1).length + (Nat.toDigits 10 t.2).length) :
    ∃ i < 3, ∃ c, (tok t)[j + i]? = some c ∧ c ≠ '_' := by
  have hpos : 0 < (Nat.toDigits 10 t.2).length := Nat.length_toDigits_pos
  -- a digit of the number, counted from the beginning of the token
  have hdigit : ∀ p, (stem t.1).length ≤ p →
      p < (stem t.1).length + (Nat.toDigits 10 t.2).length →
        ∃ c, (tok t)[p]? = some c ∧ c ≠ '_' := by
    intro p hp hp'
    have hlt : p - (stem t.1).length < (Nat.toDigits 10 t.2).length := by omega
    refine ⟨(Nat.toDigits 10 t.2)[p - (stem t.1).length], ?_,
      digit_ne_underscore (List.getElem_mem hlt)⟩
    rw [tok_eq, List.getElem?_append_right hp, List.getElem?_append_left hlt,
      List.getElem?_eq_getElem hlt]
  rcases Nat.lt_or_ge j (stem t.1).length with hs | hs
  · obtain ⟨i, hi, h⟩ := stem_inner t.1 j hs h1
    refine ⟨i, hi, ?_⟩
    rcases h with h | ⟨c, hc, hne⟩
    · exact hdigit (j + i) (by omega) (by omega)
    · refine ⟨c, ?_, hne⟩
      have hlt : j + i < (stem t.1).length := (List.getElem?_eq_some_iff.1 hc).1
      rw [tok_eq, List.getElem?_append_left hlt, hc]
  · exact ⟨0, by omega, hdigit j hs hj⟩

theorem takeWhile_digits (n : Nat) (x : List Char) :
    (Nat.toDigits 10 n ++ '_' :: x).takeWhile (· != '_') = Nat.toDigits 10 n := by
  rw [List.takeWhile_append_of_pos (fun c hc => by simpa using digit_ne_underscore hc)]
  simp

/-- The stems of two kinds differ in a character that both have. -/
theorem stem_differ : ∀ k k' : RequestKind, k ≠ k' →
    ∃ i < 20, (stem k)[i]? ≠ (stem k')[i]? := by
  intro k k' h
  cases k <;> cases k' <;> first | exact absurd rfl h | decide

theorem le_length_stem (k : RequestKind) : 20 ≤ (stem k).length := by
  cases k <;> decide

/-- **No token begins with another one.** -/
theorem token_unique {t u : RequestKind × Nat} {x y : List Char}
    (h : tok t ++ x = tok u ++ y) : t = u := by
  obtain ⟨k, n⟩ := t
  obtain ⟨k', n'⟩ := u
  have hk : k = k' := by
    by_contra hne
    obtain ⟨i, hi, hd⟩ := stem_differ k k' hne
    have e := congrArg (·[i]?) h
    simp only [tok_eq, List.append_assoc] at e
    have hl := le_length_stem k
    have hl' := le_length_stem k'
    rw [List.getElem?_append_left (by omega), List.getElem?_append_left (by omega)] at e
    exact hd e
  subst hk
  simp only [tok_eq, List.append_assoc, List.append_cancel_left_eq, List.cons_append] at h
  have e := congrArg (List.takeWhile (· != '_')) h
  rw [takeWhile_digits, takeWhile_digits] at e
  rw [toDigits_injective e]

/-- **A stem holds the marker** behind its first three characters. -/
theorem marker_of_stem {k : RequestKind} {a b : List Char} (ha : a.length ≤ 3)
    (h : stem k <+: a ++ b) : marker <:+: b := by
  obtain ⟨r, hr⟩ := h
  have hin : marker <:+: (stem k).drop a.length := by
    have h3 : marker <:+: (stem k).drop 3 := by cases k <;> decide
    obtain ⟨d, hd⟩ := Nat.exists_eq_add_of_le ha
    rw [hd, ← List.drop_drop] at h3
    exact h3.trans (List.drop_suffix d _).isInfix
  have hb : b = (stem k).drop a.length ++ r := by
    have e := congrArg (List.drop a.length) hr
    rw [List.drop_left, List.drop_append_of_le_length
      (by have := le_length_stem k; omega)] at e
    exact e.symm
  rw [hb]
  exact hin.trans (List.prefix_append _ _).isInfix

theorem stem_prefix_tok (t : RequestKind × Nat) : stem t.1 <+: tok t :=
  ⟨_, (tok_eq t).symm⟩

/-- **A token begins only where it was put.** Of the text in front of the pieces, `a` may be the end
of a token; the rest of it, `b`, is written out. -/
theorem not_token_isPrefix (g : RequestKind × Nat → List Char) (t : RequestKind × Nat)
    {a : List Char} (ha : a.length ≤ 3) :
    ∀ (ps : List (Piece (RequestKind × Nat))) (b : List Char), a ++ b ≠ [] →
      ¬ marker <:+: b ++ Piece.spell g ps → ¬ tok t <+: a ++ b ++ Piece.spell tok ps
  | [], b, _, hm, hp => by
    rw [Piece.spell_nil, List.append_nil] at hm hp
    exact hm (marker_of_stem ha ((stem_prefix_tok t).trans hp))
  | .lit s :: ps, b, hne, hm, hp => by
    refine not_token_isPrefix g t ha ps (b ++ s.toList) (by simp_all) ?_ ?_
    · simpa using hm
    · simpa using hp
  | .token u :: ps, b, hne, hm, hp => by
    obtain ⟨z, hz⟩ := hp
    rw [Piece.spell_token] at hz
    rcases Nat.lt_or_ge (a ++ b).length (stem t.1).length with hl | hl
    · -- the token `u` would stand inside the stem of `t`
      have hpos : 0 < (a ++ b).length := List.length_pos_of_ne_nil hne
      obtain ⟨i, hi, c, hc, hcne⟩ := token_inner t (j := (a ++ b).length) hpos (by omega)
      have e := congrArg (·[(a ++ b).length + i]?) hz
      have hlt : (a ++ b).length + i < (tok t).length := (List.getElem?_eq_some_iff.1 hc).1
      have hu := tok_getElem? u hi
      have hlu : i < (tok u).length := (List.getElem?_eq_some_iff.1 hu).1
      simp only [List.getElem?_append_left hlt, hc] at e
      rw [List.getElem?_append_right (by omega), Nat.add_sub_cancel_left,
        List.getElem?_append_left hlu, hu] at e
      exact hcne (Option.some.inj e)
    · have hstem : stem t.1 <+: a ++ b := by
        refine List.prefix_of_prefix_length_le ((stem_prefix_tok t).trans ⟨z, hz⟩)
          (List.prefix_append (a ++ b) _) hl
      exact hm ((marker_of_stem ha hstem).trans (List.prefix_append _ _).isInfix)

end Requests

end SlidePress
