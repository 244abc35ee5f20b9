import Mathlib.Algebra.Order.Ring.Nat
import Mathlib.Tactic.SplitIfs
import SlidePress.Proofs.Text.Replace

/-! # Splitting a text, one separator at a time

`splitOn` is one scan with a bound on the number of cuts, a counter for the characters still to be
passed over and the piece begun. As for `replaceAll`, the bound is never reached and the counter only
drops characters, so the scan obeys two rules: up to the first separator the text is the first piece,
and the scan goes on behind it (`splitOn_append`); without a separator the text is the only piece
(`splitOn_of_not_infix`). Splitting at a single character is the library's
(`splitOn_singleton`), as joining is (`joinWith_eq_intercalate`). -/

namespace SlidePress.Text

theorem splitFrom_skip (sep : List Char) (limit : Nat) (piece : List Char) :
    ∀ (skip : Nat) (cs : List Char),
      splitFrom sep limit skip piece cs = splitFrom sep limit 0 piece (cs.drop skip)
  | 0, cs => by simp
  | skip + 1, [] => by simp [splitFrom]
  | skip + 1, c :: cs => by
    rw [splitFrom, splitFrom_skip sep limit piece skip cs, List.drop_succ_cons]

/-- A bound above the length of the text is as good as any other. -/
theorem splitFrom_limit (sep : List Char) :
    ∀ (cs : List Char) (l l' skip : Nat) (piece : List Char), cs.length < l → cs.length < l' →
      splitFrom sep l skip piece cs = splitFrom sep l' skip piece cs
  | [], _, _, _, _, _, _ => rfl
  | c :: cs, l, l', skip + 1, piece, h, h' => by
    simp only [List.length_cons] at h h'
    simp only [splitFrom]
    exact splitFrom_limit sep cs l l' skip piece (by omega) (by omega)
  | c :: cs, l + 1, l' + 1, 0, piece, h, h' => by
    simp only [List.length_cons] at h h'
    simp only [splitFrom]
    rw [splitFrom_limit sep cs l l' _ _ (by omega) (by omega),
      splitFrom_limit sep cs (l + 1) (l' + 1) 0 _ (by omega) (by omega)]

variable {sep : List Char}

/-- Characters at which no separator begins go to the piece begun. -/
theorem splitFrom_append {limit : Nat} {rest : List Char} :
    ∀ {cs piece : List Char}, (∀ u v, cs ++ rest = u ++ (sep ++ v) → cs.length ≤ u.length) →
      splitFrom sep (limit + 1) 0 piece (cs ++ rest) =
        splitFrom sep (limit + 1) 0 (cs.reverse ++ piece) rest
  | [], piece, _ => rfl
  | c :: cs, piece, h => by
    have hstart : ¬ startsWith sep (c :: (cs ++ rest)) = true := by
      intro hs
      obtain ⟨v, hv⟩ := startsWith_iff.1 hs
      exact absurd (h [] v hv.symm) (by simp)
    have hrest : ∀ u v, cs ++ rest = u ++ (sep ++ v) → cs.length ≤ u.length := fun u v huv =>
      Nat.le_of_succ_le_succ (h (c :: u) v (congrArg (List.cons c) huv))
    rw [List.cons_append, splitFrom, if_neg hstart, splitFrom_append hrest, List.reverse_cons,
      List.append_assoc]
    rfl

/-- **Up to the first separator** the text is the first piece. -/
theorem splitOn_append (hsep : sep ≠ []) {cs rest : List Char}
    (h : ∀ u v, cs ++ (sep ++ rest) = u ++ (sep ++ v) → cs.length ≤ u.length) :
    splitOn sep (cs ++ (sep ++ rest)) = cs :: splitOn sep rest := by
  rw [splitOn, splitFrom_append h, List.append_nil]
  obtain ⟨s, ss, rfl⟩ := List.exists_cons_of_ne_nil hsep
  have hstart : startsWith (s :: ss) (s :: (ss ++ rest)) = true := startsWith_iff.2 ⟨rest, by simp⟩
  rw [List.cons_append, splitFrom, if_pos hstart, List.reverse_reverse, splitFrom_skip,
    List.length_cons, Nat.add_sub_cancel, List.drop_left, splitOn]
  refine congrArg (List.cons cs) (splitFrom_limit _ _ _ _ _ _ ?_ (Nat.lt_succ_self _))
  simp only [List.length_append, List.length_cons]
  omega

/-- **Without a separator** the text is the only piece. -/
theorem splitOn_of_not_infix {cs : List Char} (h : ¬ sep <:+: cs) : splitOn sep cs = [cs] := by
  have hsplit : splitFrom sep (cs.length + 1) 0 [] (cs ++ []) = [cs] := by
    rw [splitFrom_append fun u v huv => absurd ⟨u, v, ?_⟩ h]
    · rw [splitFrom, List.append_nil, List.reverse_reverse]
    · rw [List.append_assoc, ← huv, List.append_nil]
  rwa [List.append_nil] at hsplit

theorem splitFrom_singleton (d : Char) :
    ∀ (cs : List Char) (limit : Nat) (piece : List Char), cs.length < limit →
      splitFrom [d] limit 0 piece cs = List.splitOnPPrepend (· == d) cs piece
  | [], _, _, _ => by rw [splitFrom, List.splitOnPPrepend_nil]
  | c :: cs, limit + 1, piece, h => by
    have hlimit : cs.length < limit := Nat.lt_of_succ_lt_succ h
    rw [splitFrom, List.splitOnPPrepend_cons_eq_if, ← List.splitOnPPrepend_nil_right]
    by_cases hc : c = d
    · subst hc
      have hstart : startsWith [c] (c :: cs) = true := startsWith_iff.2 ⟨cs, rfl⟩
      rw [if_pos hstart, if_pos (beq_self_eq_true c)]
      exact congrArg _ (splitFrom_singleton c cs limit [] hlimit)
    · have hstart : ¬ startsWith [d] (c :: cs) = true := fun hs => by
        obtain ⟨v, hv⟩ := startsWith_iff.1 hs
        cases hv
        exact hc rfl
      rw [if_neg hstart, if_neg (by simpa using hc)]
      exact splitFrom_singleton d cs (limit + 1) (c :: piece) (by omega)

theorem splitOn_singleton (d : Char) (cs : List Char) : splitOn [d] cs = cs.splitOn d := by
  rw [splitOn, splitFrom_singleton d cs _ [] (Nat.lt_succ_self _)]
  rfl

theorem joinWith_eq_intercalate (sep : List Char) :
    ∀ pieces : List (List Char), joinWith sep pieces = sep.intercalate pieces
  | [] => by simp [joinWith]
  | [a] => by simp [joinWith]
  | a :: b :: r => by
    rw [joinWith, joinWith_eq_intercalate sep (b :: r), List.intercalate_cons_cons]

/-- A piece between single characters does not hold them. -/
theorem notMem_of_mem_splitOn {d : Char} {piece : List Char} :
    ∀ {cs : List Char}, piece ∈ cs.splitOn d → d ∉ piece
  | [], h => by
    obtain rfl : piece = [] := by simpa using h
    exact List.not_mem_nil
  | c :: cs, h => by
    rw [List.splitOn_cons_eq_if_modifyHead] at h
    split_ifs at h with hc
    · obtain rfl | h := List.mem_cons.1 h
      · exact List.not_mem_nil
      · exact notMem_of_mem_splitOn h
    · obtain ⟨first, rest, hcs⟩ := List.exists_cons_of_ne_nil (List.splitOn_ne_nil d cs)
      rw [hcs, List.modifyHead_cons] at h
      obtain rfl | h := List.mem_cons.1 h
      · have hfirst : d ∉ first := notMem_of_mem_splitOn (hcs ▸ List.mem_cons_self)
        have hd : d ≠ c := fun hd => hc (beq_iff_eq.2 hd.symm)
        exact List.not_mem_cons_of_ne_of_not_mem hd hfirst
      · exact notMem_of_mem_splitOn (hcs ▸ List.mem_cons_of_mem first h)

theorem intercalate_cons (d : Char) (piece : List Char) :
    ∀ pieces : List (List Char),
      [d].intercalate (piece :: pieces) = piece ++ (pieces.map fun p => d :: p).flatten
  | [] => by simp
  | p :: pieces => by
    rw [List.intercalate_cons_cons, intercalate_cons d p pieces]
    simp

theorem length_intercalate (sep : String) (ns : List String) (hne : ns ≠ []) :
    (sep.intercalate ns).length + sep.length =
      (ns.map fun n => n.length + sep.length).sum := by
  induction ns with
  | nil => exact absurd rfl hne
  | cons n ns ih =>
    cases ns with
    | nil => simp
    | cons m ns =>
      have hrest := ih (List.cons_ne_nil m ns)
      rw [String.intercalate_cons_cons, List.map_cons, List.sum_cons, ← hrest]
      simp only [String.length_append]
      omega

theorem subset_intercalate {piece : List Char} :
    ∀ {pieces : List (List Char)}, piece ∈ pieces → piece ⊆ sep.intercalate pieces
  | [a], h => by
    obtain rfl : piece = a := by simpa using h
    rw [List.intercalate_singleton]
    exact List.Subset.refl piece
  | a :: b :: r, h => by
    rw [List.intercalate_cons_cons, List.append_assoc]
    obtain rfl | h := List.mem_cons.1 h
    · exact List.subset_append_left piece _
    · exact List.Subset.trans (subset_intercalate h)
        (List.Subset.trans (List.subset_append_right sep _) (List.subset_append_right a _))

/-- A piece between single characters holds nothing that the text does not hold. -/
theorem subset_of_mem_splitOn {d : Char} {piece cs : List Char} (h : piece ∈ cs.splitOn d) :
    piece ⊆ cs := by
  have hpiece : piece ⊆ [d].intercalate (cs.splitOn d) := subset_intercalate h
  rwa [List.intercalate_splitOn] at hpiece

/-- A run of characters of one kind ends in front of one that is not of it. -/
theorem takeWhile_append_of_head {p : Char → Bool} {u v : List Char} (hu : ∀ c ∈ u, p c = true)
    (hv : ∀ c ∈ v.head?, p c = false) :
    (u ++ v).takeWhile p = u ∧ (u ++ v).dropWhile p = v := by
  rw [List.takeWhile_append_of_pos hu, List.dropWhile_append_of_pos hu]
  cases v with
  | nil => exact ⟨List.append_nil u, rfl⟩
  | cons c v =>
    have hc : ¬ p c = true := by simp [hv c rfl]
    rw [List.takeWhile_cons_of_neg hc, List.dropWhile_cons_of_neg hc, List.append_nil]
    exact ⟨rfl, rfl⟩

end SlidePress.Text
