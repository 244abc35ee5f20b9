import SlidePress.Text.Search

/-! # Replacing a piece of text, one step at a time

`replaceAll` is one scan with a bound on the number of replacements and a counter for the characters
still to be passed over. The bound is never reached (`replaceFrom_limit`) and the counter only drops
characters (`replaceFrom_skip`), so the scan obeys two rules: where the piece begins it is replaced
and the scan goes on behind it (`replaceAll_append`); elsewhere one character is kept
(`replaceAll_cons`). -/

namespace SlidePress.Text

/-- A text begins with a piece exactly if the piece is a prefix of it. -/
theorem startsWith_iff {piece cs : List Char} : startsWith piece cs = true ↔ piece <+: cs := by
  unfold startsWith
  rw [Option.isSome_iff_exists]
  constructor
  · rintro ⟨rest, h⟩
    exact ⟨rest, ((after?_eq_some_iff piece cs rest).1 h).symm⟩
  · rintro ⟨rest, h⟩
    exact ⟨rest, (after?_eq_some_iff piece cs rest).2 h.symm⟩

theorem replaceFrom_skip (old new : List Char) (limit : Nat) :
    ∀ (skip : Nat) (cs : List Char),
      replaceFrom old new limit skip cs = replaceFrom old new limit 0 (cs.drop skip)
  | 0, cs => by simp
  | skip + 1, [] => by simp [replaceFrom]
  | skip + 1, c :: cs => by
    rw [replaceFrom, replaceFrom_skip old new limit skip cs, List.drop_succ_cons]

/-- A bound above the length of the text is as good as any other. -/
theorem replaceFrom_limit (old new : List Char) :
    ∀ (cs : List Char) (l l' skip : Nat), cs.length < l → cs.length < l' →
      replaceFrom old new l skip cs = replaceFrom old new l' skip cs
  | [], _, _, _, _, _ => rfl
  | c :: cs, l, l', skip + 1, h, h' => by
    simp only [List.length_cons] at h h'
    simp only [replaceFrom]
    exact replaceFrom_limit old new cs l l' skip (by omega) (by omega)
  | c :: cs, l + 1, l' + 1, 0, h, h' => by
    simp only [List.length_cons] at h h'
    simp only [replaceFrom]
    rw [replaceFrom_limit old new cs l l' _ (by omega) (by omega),
      replaceFrom_limit old new cs (l + 1) (l' + 1) 0 (by omega) (by omega)]

variable {old new : List Char}

theorem replaceAll_eq (h : old ≠ []) (cs : List Char) {l : Nat} (hl : cs.length < l) :
    replaceFrom old new l 0 cs = replaceAll old new cs := by
  rw [replaceAll, replaceUpTo, if_neg (by simpa using h)]
  exact replaceFrom_limit old new cs l (cs.length + 1) 0 hl (by omega)

@[simp] theorem replaceAll_nil (h : old ≠ []) : replaceAll old new [] = [] := by
  rw [← replaceAll_eq h [] (Nat.zero_lt_one)]
  rfl

/-- **Where the piece begins** it is replaced, and the scan goes on behind it. -/
theorem replaceAll_append (h : old ≠ []) (cs : List Char) :
    replaceAll old new (old ++ cs) = new ++ replaceAll old new cs := by
  obtain ⟨o, os, rfl⟩ := List.exists_cons_of_ne_nil h
  have hstart : startsWith (o :: os) (o :: (os ++ cs)) = true :=
    startsWith_iff.2 ⟨cs, by simp⟩
  have hl : cs.length < (os ++ cs).length + 1 := by
    rw [List.length_append]
    omega
  rw [List.cons_append, ← replaceAll_eq h (o :: (os ++ cs)) (Nat.lt_succ_self _), replaceFrom,
    if_pos hstart, replaceFrom_skip]
  simp only [List.length_cons, Nat.add_sub_cancel, List.drop_left]
  rw [replaceAll_eq h cs hl]

/-- **Where the piece does not begin** one character is kept. -/
theorem replaceAll_cons (h : old ≠ []) {c : Char} {cs : List Char} (hc : ¬ old <+: c :: cs) :
    replaceAll old new (c :: cs) = c :: replaceAll old new cs := by
  have hstart : ¬ startsWith old (c :: cs) = true := fun hs => hc (startsWith_iff.1 hs)
  have hl : cs.length < (c :: cs).length + 1 := by
    rw [List.length_cons]
    omega
  rw [← replaceAll_eq h (c :: cs) (Nat.lt_succ_self _), replaceFrom, if_neg hstart,
    replaceAll_eq h cs hl]

/-- A text with pieces replaced holds no further characters. -/
theorem mem_of_mem_replaceFrom {c : Char} :
    ∀ {cs : List Char} {limit skip : Nat}, c ∈ replaceFrom old new limit skip cs → c ∈ new ∨ c ∈ cs
  | [], _, _, h => .inr h
  | d :: cs, limit, skip + 1, h => by
    rw [replaceFrom] at h
    exact (mem_of_mem_replaceFrom h).imp_right (List.mem_cons_of_mem d)
  | d :: cs, 0, 0, h => .inr h
  | d :: cs, limit + 1, 0, h => by
    rw [replaceFrom] at h
    by_cases hstart : startsWith old (d :: cs) = true
    · rw [if_pos hstart] at h
      exact (List.mem_append.1 h).elim .inl fun h =>
        (mem_of_mem_replaceFrom h).imp_right (List.mem_cons_of_mem d)
    · rw [if_neg hstart] at h
      exact (List.mem_cons.1 h).elim (fun h => .inr (h ▸ List.mem_cons_self)) fun h =>
        (mem_of_mem_replaceFrom h).imp_right (List.mem_cons_of_mem d)

end SlidePress.Text
