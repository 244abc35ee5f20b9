import Mathlib.Data.List.Infix
import Mathlib.Tactic.SplitIfs
import SlidePress.Proofs.Text.Replace

/-! # Pieces that a character keeps apart

A piece cannot lie across a character that it does not hold. So where such a character stands, a
text falls into two, and each part can be looked at for itself: a piece that begins in front of the
character ends in front of it (`prefix_append_cons_iff`), the first occurrence is the one in the
first part or, if that has none, the one in the second (`splitAt?_append_cons`), and replacing goes
through both parts (`replaceAll_append_cons`). -/

namespace SlidePress.Text

variable {piece old new : List Char} {c : Char}

/-- A piece that begins in front of a character it does not hold ends in front of it. -/
theorem prefix_append_cons_iff (hc : c ∉ piece) {x y : List Char} :
    piece <+: x ++ c :: y ↔ piece <+: x := by
  refine ⟨fun h => ?_, fun h => h.trans (List.prefix_append x _)⟩
  by_cases hlength : piece.length ≤ x.length
  · exact List.prefix_of_prefix_length_le h (List.prefix_append x _) hlength
  · have hmark : x ++ [c] <+: x ++ c :: y := ⟨y, by simp⟩
    have hpiece : x ++ [c] <+: piece :=
      List.prefix_of_prefix_length_le hmark h (by rw [List.length_append, List.length_singleton]; omega)
    exact absurd (hpiece.subset (by simp)) hc

/-- A piece occurs in no part of a text that does not hold its first character. -/
theorem infix_append_iff_of_notMem {p : Char} {ps x y : List Char} (h : p ∉ x) :
    p :: ps <:+: x ++ y ↔ p :: ps <:+: y := by
  induction x with
  | nil => rfl
  | cons d x ih =>
    have hstart : ¬ p :: ps <+: d :: (x ++ y) := by
      intro hpre
      have hp : p = d := (List.cons_prefix_cons.1 hpre).1
      exact h (hp ▸ List.mem_cons_self)
    rw [List.cons_append, List.infix_cons_iff, ih fun hp => h (List.mem_cons_of_mem d hp)]
    exact or_iff_right hstart

/-! ### The first occurrence -/

theorem after?_eq_none_iff {cs : List Char} : after? piece cs = none ↔ ¬ piece <+: cs := by
  rw [← startsWith_iff, startsWith, Bool.not_eq_true, Option.isSome_eq_false_iff, Option.isNone_iff_eq_none]

theorem splitAt?_of_prefix {rest : List Char} (h : piece ≠ []) :
    splitAt? piece (piece ++ rest) = some ([], rest) := by
  obtain ⟨p, ps, rfl⟩ := List.exists_cons_of_ne_nil h
  have hafter : after? (p :: ps) (p :: (ps ++ rest)) = some rest :=
    (after?_eq_some_iff _ _ _).2 (by simp)
  rw [List.cons_append, splitAt?, hafter]

theorem splitAt?_cons {cs : List Char} (h : ¬ piece <+: c :: cs) :
    splitAt? piece (c :: cs) = (splitAt? piece cs).map fun s => (c :: s.1, s.2) := by
  rw [splitAt?, after?_eq_none_iff.2 h]

theorem splitAt?_eq_none_iff (h : piece ≠ []) :
    ∀ {cs : List Char}, splitAt? piece cs = none ↔ ¬ piece <:+: cs
  | [] => by simp [splitAt?, h]
  | c :: cs => by
    rw [List.infix_cons_iff, not_or]
    by_cases hstart : piece <+: c :: cs
    · obtain ⟨rest, hrest⟩ := hstart
      simp [← hrest, splitAt?_of_prefix h]
    · rw [splitAt?_cons hstart, Option.map_eq_none_iff, splitAt?_eq_none_iff h]
      exact ⟨fun hcs => ⟨hstart, hcs⟩, And.right⟩

/-- **The first occurrence** lies in front of a character that the piece does not hold, or behind. -/
theorem splitAt?_append_cons (h : piece ≠ []) (hc : c ∉ piece) {y : List Char} :
    ∀ x : List Char, splitAt? piece (x ++ c :: y) =
      match splitAt? piece x with
      | some (before, rest) => some (before, rest ++ c :: y)
      | none => (splitAt? piece y).map fun s => (x ++ c :: s.1, s.2)
  | [] => by
    have hstart : ¬ piece <+: c :: y := fun hy =>
      h (List.prefix_nil.1 ((prefix_append_cons_iff (x := []) hc).1 hy))
    have hnil : splitAt? piece [] = none := (splitAt?_eq_none_iff h).2 (by simpa using h)
    rw [List.nil_append, splitAt?_cons hstart, hnil]
    rfl
  | d :: x => by
    by_cases hstart : piece <+: d :: x
    · obtain ⟨rest, hrest⟩ := hstart
      rw [← hrest, List.append_assoc, splitAt?_of_prefix h, splitAt?_of_prefix h]
    · have hlong : ¬ piece <+: d :: (x ++ c :: y) := fun hx =>
        hstart ((prefix_append_cons_iff hc).1 hx)
      rw [List.cons_append, splitAt?_cons hlong, splitAt?_cons hstart, splitAt?_append_cons h hc x]
      cases splitAt? piece x with
      | none => simp [Function.comp_def]
      | some s => rfl

/-- What follows a text does not change where a piece occurs in it first. -/
theorem splitAt?_append {before rest : List Char} (h : piece ≠ []) (y : List Char) :
    ∀ {cs : List Char}, splitAt? piece cs = some (before, rest) →
      splitAt? piece (cs ++ y) = some (before, rest ++ y)
  | [], hcs => by simp [splitAt?, h] at hcs
  | c :: cs, hcs => by
    by_cases hstart : piece <+: c :: cs
    · obtain ⟨t, ht⟩ := hstart
      rw [← ht, splitAt?_of_prefix h, Option.some.injEq, Prod.mk.injEq] at hcs
      rw [← ht, List.append_assoc, splitAt?_of_prefix h, hcs.1, hcs.2]
    · rw [splitAt?_cons hstart, Option.map_eq_some_iff] at hcs
      obtain ⟨s, hs, hpair⟩ := hcs
      obtain ⟨rfl, rfl⟩ := Prod.mk.inj hpair
      have hwithin : piece <:+: cs := by_contra fun hno => by
        rw [(splitAt?_eq_none_iff h).2 hno] at hs
        cases hs
      have hlong : ¬ piece <+: c :: (cs ++ y) := fun hx =>
        hstart (List.prefix_of_prefix_length_le hx (List.prefix_append (c :: cs) y)
          (hwithin.length_le.trans (Nat.le_succ _)))
      rw [List.cons_append, splitAt?_cons hlong, splitAt?_append h y hs]
      rfl

/-! ### Replacing -/

/-- The two rules of replacing as an induction: a text begins with the piece, or with a character at
which the piece does not begin. -/
theorem replacing_induction {P : List Char → Prop} (h : old ≠ []) (nil : P [])
    (found : ∀ cs, P cs → P (old ++ cs)) (kept : ∀ c cs, ¬ old <+: c :: cs → P cs → P (c :: cs))
    (cs : List Char) : P cs := by
  induction hn : cs.length using Nat.strong_induction_on generalizing cs with
  | _ n ih =>
    subst hn
    by_cases hstart : old <+: cs
    · obtain ⟨rest, rfl⟩ := hstart
      have hpos : 0 < old.length := List.length_pos_of_ne_nil h
      exact found rest (ih rest.length (by rw [List.length_append]; omega) rest rfl)
    · cases cs with
      | nil => exact nil
      | cons c cs => exact kept c cs hstart (ih cs.length (Nat.lt_succ_self _) cs rfl)

theorem replaceAll_of_not_infix (h : old ≠ []) :
    ∀ {cs : List Char}, ¬ old <:+: cs → replaceAll old new cs = cs
  | [], _ => replaceAll_nil h
  | c :: cs, hcs => by
    rw [List.infix_cons_iff, not_or] at hcs
    rw [replaceAll_cons h hcs.1, replaceAll_of_not_infix h hcs.2]

/-- **Replacing goes through both parts** of a text that a character keeps apart. -/
theorem replaceAll_append_cons (h : old ≠ []) (hc : c ∉ old) (x y : List Char) :
    replaceAll old new (x ++ c :: y) = replaceAll old new x ++ c :: replaceAll old new y := by
  induction x using replacing_induction h with
  | nil =>
    have hstart : ¬ old <+: c :: y := fun hy =>
      h (List.prefix_nil.1 ((prefix_append_cons_iff (x := []) hc).1 hy))
    rw [List.nil_append, replaceAll_cons h hstart, replaceAll_nil h, List.nil_append]
  | found x ih => rw [List.append_assoc, replaceAll_append h, ih, replaceAll_append h, List.append_assoc]
  | kept d x hd ih =>
    have hlong : ¬ old <+: d :: (x ++ c :: y) := fun hx => hd ((prefix_append_cons_iff hc).1 hx)
    rw [List.cons_append, replaceAll_cons h hlong, ih, replaceAll_cons h hd, List.cons_append]

theorem replaceAll_eq_nil_iff (h : old ≠ []) (hnew : new ≠ []) {cs : List Char} :
    replaceAll old new cs = [] ↔ cs = [] := by
  induction cs using replacing_induction h with
  | nil => rw [replaceAll_nil h]
  | found cs ih => simp [replaceAll_append h, h, hnew]
  | kept c cs hc ih => simp [replaceAll_cons h hc]

/-- A text with pieces replaced ends as it did, or like what takes the place of a piece. -/
theorem getLast?_replaceAll (h : old ≠ []) (hnew : new ≠ []) {cs : List Char}
    (hc : c ∈ (replaceAll old new cs).getLast?) : c ∈ new.getLast? ∨ c ∈ cs.getLast? := by
  induction cs using replacing_induction h with
  | nil => exact .inr (by rwa [replaceAll_nil h] at hc)
  | found cs ih =>
    rw [replaceAll_append h, List.getLast?_append] at hc
    by_cases hcs : cs = []
    · rw [hcs, replaceAll_nil h] at hc
      exact .inl hc
    · have hne : replaceAll old new cs ≠ [] := fun hnil => hcs ((replaceAll_eq_nil_iff h hnew).1 hnil)
      rw [List.getLast?_eq_some_getLast hne, Option.some_or, ← List.getLast?_eq_some_getLast hne] at hc
      rw [List.getLast?_append_of_ne_nil old hcs]
      exact ih hc
  | kept d cs hd ih =>
    rw [replaceAll_cons h hd] at hc
    by_cases hcs : cs = []
    · rw [hcs, replaceAll_nil h] at hc
      rw [hcs]
      exact .inr hc
    · have hne : replaceAll old new cs ≠ [] := fun hnil => hcs ((replaceAll_eq_nil_iff h hnew).1 hnil)
      rw [List.getLast?_cons_of_ne_nil hne] at hc
      rw [List.getLast?_cons_of_ne_nil hcs]
      exact ih hc

/-! ### Replacing once -/

theorem replaceFrom_zero (old new : List Char) (cs : List Char) : replaceFrom old new 0 0 cs = cs := by
  cases cs with
  | nil => rfl
  | cons c cs => rfl

/-- What is replaced at most once is the first occurrence. -/
theorem replaceUpTo_one {before rest cs : List Char} (h : old ≠ [])
    (hcs : splitAt? old cs = some (before, rest)) :
    replaceUpTo 1 old new cs = before ++ new ++ rest := by
  rw [replaceUpTo, if_neg (by simpa using h)]
  induction cs generalizing before with
  | nil => simp [splitAt?, h] at hcs
  | cons c cs ih =>
    rw [replaceFrom]
    by_cases hstart : old <+: c :: cs
    · obtain ⟨r, hr⟩ := hstart
      have hpair : some (([] : List Char), r) = some (before, rest) := by
        rw [← hcs, ← hr, splitAt?_of_prefix h]
      have hdrop : cs.drop (old.length - 1) = r := by
        obtain ⟨o, os, rfl⟩ := List.exists_cons_of_ne_nil h
        rw [← (List.cons.inj hr).2]
        simp
      obtain ⟨rfl, rfl⟩ := Prod.mk.inj (Option.some.inj hpair)
      rw [if_pos (startsWith_iff.2 ⟨r, hr⟩), replaceFrom_skip, replaceFrom_zero, hdrop, List.nil_append]
    · rw [splitAt?_cons hstart, Option.map_eq_some_iff] at hcs
      obtain ⟨s, hs, hpair⟩ := hcs
      obtain ⟨rfl, rfl⟩ := Prod.mk.inj hpair
      rw [if_neg fun hc => hstart (startsWith_iff.1 hc), ih hs]
      rfl

/-- A piece that begins with a character it holds nowhere else cannot begin in front of an occurrence
of it and end within. -/
theorem splitAt?_append_self {p : Char} {ps y : List Char} (hp : p ∉ ps) :
    ∀ {x : List Char}, ¬ p :: ps <:+: x → splitAt? (p :: ps) (x ++ (p :: ps ++ y)) = some (x, y)
  | [], _ => splitAt?_of_prefix (List.cons_ne_nil p ps)
  | c :: x, hx => by
    rw [List.infix_cons_iff, not_or] at hx
    have hstart : ¬ p :: ps <+: c :: (x ++ (p :: ps ++ y)) := by
      intro hpre
      obtain ⟨rfl, hps⟩ := List.cons_prefix_cons.1 hpre
      have hin : ps <+: x := (prefix_append_cons_iff hp).1 hps
      exact hx.1 (List.cons_prefix_cons.2 ⟨rfl, hin⟩)
    rw [List.cons_append, splitAt?_cons hstart, splitAt?_append_self hp hx.2]
    rfl

end SlidePress.Text
