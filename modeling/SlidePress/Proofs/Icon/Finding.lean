import SlidePress.Proofs.Icon.Markup

/-! # Finding an attribute of the root tag

An attribute is looked for in a text as a blank, its name, an equals sign and a double quote that stand
in a row; its value goes up to the next quote. Read by the parts of markup, of the attributes with the
name those are found that have no blanks around their equals sign (`Attribute.Tight`), and every other
attribute is passed over (`Attribute.skips`), unless its value ends like the beginning of the attribute
that is looked for (`Lures`): then the quote behind it is taken for the one in front of a value. -/

namespace SlidePress.Svg

open Text (isBlank)

/-! ### Finding an attribute -/

section Finding

variable {n before rest x y z : List Char} {c : Char}

/-- A name of an attribute. -/
def IsName (n : List Char) : Prop := n ≠ [] ∧ ∀ c ∈ n, isNameChar c = true

instance (n : List Char) : Decidable (IsName n) :=
  decidable_of_iff (n ≠ [] ∧ n.all isNameChar = true) (by rw [IsName, List.all_eq_true])

/-- What an attribute with a name and no further blanks looks like up to its value. -/
def handle (n : List Char) : List Char := n ++ ['=', '"']

theorem afterAttribute?_of_not_blank (hc : isBlank c = false) : afterAttribute? n (c :: x) = none := by
  rw [afterAttribute?, if_neg (by simp [hc])]

theorem afterAttribute?_of_no_handle (h : ¬ handle n <+: x) : afterAttribute? n (c :: x) = none := by
  rw [afterAttribute?]
  split_ifs
  · rw [show Text.after? (n ++ ['=', '"']) x = none from Text.after?_eq_none_iff.2 h]
  · rfl

theorem afterAttribute?_handle (hc : isBlank c = true) {v : List Char} (hv : '"' ∉ v) :
    afterAttribute? n (c :: (handle n ++ (v ++ '"' :: y))) = some y := by
  have hafter : Text.after? (n ++ ['=', '"']) (handle n ++ (v ++ '"' :: y)) = some (v ++ '"' :: y) :=
    (Text.after?_eq_some_iff _ _ _).2 rfl
  have hvalue : (v ++ '"' :: y).dropWhile (· != '"') = '"' :: y :=
    (Text.takeWhile_append_of_head (forall_ne_of_notMem hv) (by simp)).2
  rw [afterAttribute?, if_pos hc, hafter]
  dsimp only
  rw [hvalue]

/-- A text that holds a quote is a value and what follows it. -/
theorem exists_of_dropWhile_eq_cons {q : Char} {r : List Char}
    (h : r.dropWhile (· != '"') = q :: rest) : ∃ v, r = v ++ '"' :: rest := by
  have hquote := List.head?_dropWhile_not (· != '"') r
  rw [h] at hquote
  obtain rfl : q = '"' := by simpa using hquote
  have hsplit := List.takeWhile_append_dropWhile (p := (· != '"')) (l := r)
  exact ⟨r.takeWhile (· != '"'), by rw [← h, hsplit]⟩

theorem exists_of_afterAttribute? {cs : List Char} (h : afterAttribute? n cs = some rest) :
    ∃ c v, cs = c :: (handle n ++ (v ++ '"' :: rest)) := by
  cases cs with
  | nil => simp [afterAttribute?] at h
  | cons c x =>
    rw [afterAttribute?] at h
    split_ifs at h
    cases hafter : Text.after? (n ++ ['=', '"']) x with
    | none => simp [hafter] at h
    | some r =>
      simp only [hafter] at h
      cases hvalue : r.dropWhile (· != '"') with
      | nil => simp [hvalue] at h
      | cons q r' =>
        simp only [hvalue, Option.some.injEq] at h
        obtain ⟨v, hv⟩ := exists_of_dropWhile_eq_cons (h ▸ hvalue)
        exact ⟨c, v, by rw [← hv, (Text.after?_eq_some_iff _ _ _).1 hafter, handle]⟩

theorem splitAttribute?_of_some {cs : List Char} (h : afterAttribute? n (c :: cs) = some rest) :
    splitAttribute? n (c :: cs) = some ([], rest) := by
  rw [splitAttribute?.eq_def]
  simp only [h]

theorem splitAttribute?_of_none {cs : List Char} (h : afterAttribute? n (c :: cs) = none) :
    splitAttribute? n (c :: cs) = (splitAttribute? n cs).map fun s => (c :: s.1, s.2) := by
  rw [splitAttribute?.eq_def]
  simp only [h]

/-- What is found is a blank and an attribute behind it. -/
theorem exists_of_splitAttribute? {cs : List Char} (h : splitAttribute? n cs = some (before, rest)) :
    ∃ c v, cs = before ++ c :: (handle n ++ (v ++ '"' :: rest)) := by
  induction cs generalizing before with
  | nil => exact absurd h (by rw [splitAttribute?.eq_def]; simp)
  | cons c cs ih =>
    cases hafter : afterAttribute? n (c :: cs) with
    | some r =>
      rw [splitAttribute?_of_some hafter, Option.some.injEq, Prod.mk.injEq] at h
      obtain ⟨rfl, rfl⟩ := h
      exact exists_of_afterAttribute? hafter
    | none =>
      rw [splitAttribute?_of_none hafter, Option.map_eq_some_iff] at h
      obtain ⟨s, hs, hpair⟩ := h
      obtain ⟨rfl, rfl⟩ := Prod.mk.inj hpair
      obtain ⟨d, v, hcs⟩ := ih hs
      exact ⟨d, v, by rw [hcs]; rfl⟩

/-- No attribute begins in a text, whatever is found behind it. -/
def Skips (n x y : List Char) : Prop :=
  splitAttribute? n (x ++ y) = (splitAttribute? n y).map fun s => (x ++ s.1, s.2)

theorem skips_nil : Skips n [] y := by simp [Skips]

theorem Skips.append (hx : Skips n x (y ++ z)) (hy : Skips n y z) : Skips n (x ++ y) z := by
  unfold Skips at *
  rw [List.append_assoc, hx, hy, Option.map_map]
  simp [Function.comp_def]

theorem Skips.cons (hc : afterAttribute? n (c :: (x ++ y)) = none) (hx : Skips n x y) :
    Skips n (c :: x) y := by
  unfold Skips at *
  rw [List.cons_append, splitAttribute?_of_none hc, hx, Option.map_map]
  rfl

theorem skips_of_not_blank : ∀ {x : List Char}, (∀ c ∈ x, isBlank c = false) → Skips n x y
  | [], _ => skips_nil
  | _ :: _, h =>
    .cons (afterAttribute?_of_not_blank (h _ List.mem_cons_self))
      (skips_of_not_blank fun c hc => h c (List.mem_cons_of_mem _ hc))

/-- What no name holds begins no attribute. -/
theorem IsName.not_starts_handle (hn : IsName n) (hc : isNameChar c = false) :
    ¬ handle n <+: c :: x := by
  obtain ⟨d, r, rfl⟩ := List.exists_cons_of_ne_nil hn.1
  rintro ⟨t, ht⟩
  have hd := hn.2 d List.mem_cons_self
  rw [(List.cons.inj ht).1, hc] at hd
  cases hd

theorem skips_of_blank (hn : IsName n) (hy : ¬ handle n <+: y) :
    ∀ {x : List Char}, (∀ c ∈ x, isBlank c = true) → Skips n x y
  | [], _ => skips_nil
  | c :: x, h => by
    refine .cons (afterAttribute?_of_no_handle ?_)
      (skips_of_blank hn hy fun d hd => h d (List.mem_cons_of_mem _ hd))
    cases x with
    | nil => exact hy
    | cons d x => exact hn.not_starts_handle (isNameChar_of_isBlank (h d (by simp)))

theorem quote_notMem_of_isName (hn : IsName n) : '"' ∉ n := by
  intro h
  exact absurd (hn.2 '"' h) (by decide)

/-- A value that ends like the beginning of an attribute, so that the quote behind it would be taken
for the one in front of a value. -/
def Lures (n v : List Char) : Prop := ∃ u c, isBlank c = true ∧ v = u ++ c :: (n ++ ['='])

theorem not_lures_of_equals_notMem {v : List Char} (h : '=' ∉ v) : ¬ Lures n v := by
  rintro ⟨u, c, -, rfl⟩
  exact h (by simp)

/-- A handle that begins in a value ends with it. -/
theorem eq_of_starts_handle (hn : IsName n) {v : List Char} (hv : '"' ∉ v)
    (h : handle n <+: v ++ '"' :: y) : v = n ++ ['='] := by
  obtain ⟨t, ht⟩ := h
  have hquote : '"' ∉ n ++ ['='] := by simp [quote_notMem_of_isName hn]
  have hsplit : n ++ ['='] ++ '"' :: t = v ++ '"' :: y := by rw [← ht]; simp [handle]
  exact (eq_of_append_cons hquote hv hsplit).1.symm

/-- A value is passed over unless it ends like the beginning of the attribute. -/
theorem skips_value (hn : IsName n) :
    ∀ {v : List Char}, '"' ∉ v → ¬ Lures n v → Skips n v ('"' :: y)
  | [], _, _ => skips_nil
  | c :: v, hv, hlure => by
    have hv' : '"' ∉ v := fun h => hv (List.mem_cons_of_mem _ h)
    have hlure' : ¬ Lures n v := fun ⟨u, d, hd, h⟩ => hlure ⟨c :: u, d, hd, by rw [h]; rfl⟩
    refine .cons ?_ (skips_value hn hv' hlure')
    by_cases hc : isBlank c = true
    · exact afterAttribute?_of_no_handle fun h =>
        hlure ⟨[], c, hc, by rw [eq_of_starts_handle hn hv' h]; rfl⟩
    · exact afterAttribute?_of_not_blank (by simpa using hc)

/-- A text with fewer than two quotes holds no attribute. -/
theorem splitAttribute?_eq_none_of_count {cs : List Char} (h : cs.count '"' ≤ 1) :
    splitAttribute? n cs = none := by
  cases hfound : splitAttribute? n cs with
  | none => rfl
  | some found =>
    obtain ⟨before, rest⟩ := found
    obtain ⟨c, v, rfl⟩ := exists_of_splitAttribute? hfound
    have hopen : 0 < (handle n).count '"' := List.count_pos_iff.2 (by simp [handle])
    rw [List.count_append, List.count_cons, List.count_append, List.count_append,
      List.count_cons_self] at h
    omega

end Finding

/-! ### Attributes that are found -/

namespace Attribute

variable {a : Attribute} {n y : List Char}

/-- What stands in front of the value of an attribute. -/
def key (a : Attribute) : List Char := a.gap ++ (a.name ++ (a.padLeft ++ '=' :: a.padRight))

theorem text_eq (a : Attribute) : a.text = a.key ++ '"' :: (a.value ++ ['"']) := by
  simp [text, key]

theorem of_mem_key {c : Char} (h : c ∈ a.key) : isBlank c = true ∨ isNameChar c = true ∨ c = '=' := by
  simp only [key, List.mem_append, List.mem_cons] at h
  obtain h | h | h | h | h := h
  · exact .inl (a.isBlank_gap c h)
  · exact .inr (.inl (a.isNameChar_name c h))
  · exact .inl (a.isBlank_padLeft c h)
  · exact .inr (.inr h)
  · exact .inl (a.isBlank_padRight c h)

/-- An attribute as it is looked for: with the name, and without blanks around its equals sign. -/
def Tight (a : Attribute) (n : List Char) : Prop := a.name = n ∧ a.padLeft = [] ∧ a.padRight = []

instance (a : Attribute) (n : List Char) : Decidable (a.Tight n) :=
  inferInstanceAs (Decidable (_ ∧ _ ∧ _))

theorem Tight.text_append (h : a.Tight n) (y : List Char) :
    a.text ++ y = a.gap ++ (handle n ++ (a.value ++ '"' :: y)) := by
  rw [Attribute.text_append, h.1, h.2.1, h.2.2]
  simp [handle]

theorem tight_of_starts_handle (hn : IsName n)
    (h : handle n <+: a.name ++ (a.padLeft ++ '=' :: (a.padRight ++ '"' :: y))) : a.Tight n := by
  obtain ⟨t, ht⟩ := h
  have hsplit : n ++ '=' :: '"' :: t = a.name ++ (a.padLeft ++ '=' :: (a.padRight ++ '"' :: y)) := by
    rw [← ht]
    simp [handle]
  obtain ⟨hname, hleft⟩ := eq_of_runs hn.2 a.isNameChar_name (by simp [isNameChar])
    a.isNameChar_head?_padLeft hsplit
  obtain ⟨hpadLeft, hright⟩ := eq_of_runs (u := []) (by simp) a.isBlank_padLeft
    (by simp [show isBlank '=' = false by decide]) (by simp [show isBlank '=' = false by decide]) hleft
  obtain ⟨hpadRight, -⟩ := eq_of_runs (u := []) (by simp) a.isBlank_padRight
    (by simp [show isBlank '"' = false by decide]) (by simp [show isBlank '"' = false by decide])
    (List.cons.inj hright).2
  exact ⟨hname.symm, hpadLeft.symm, hpadRight.symm⟩

/-- **Every other attribute is passed over**, unless its value ends like the beginning of one. -/
theorem skips (hn : IsName n) (htight : ¬ a.Tight n) (hlure : ¬ Lures n a.value) :
    Skips n a.text y := by
  have hhandle : ¬ handle n <+:
      a.name ++ (a.padLeft ++ '=' :: (a.padRight ++ '"' :: (a.value ++ ['"']))) ++ y := by
    intro h
    refine htight (tight_of_starts_handle (y := a.value ++ ['"'] ++ y) hn ?_)
    simpa using h
  -- from the end of the attribute to its beginning, as each part is passed over in front of the next
  have hvalue : Skips n (a.value ++ ['"']) y :=
    (skips_value hn a.quote_notMem_value hlure).append (skips_of_not_blank (by simp; decide))
  have hquoted : Skips n (a.padRight ++ '"' :: (a.value ++ ['"'])) y :=
    (skips_of_blank hn (hn.not_starts_handle (by decide)) a.isBlank_padRight).append
      (.cons (afterAttribute?_of_not_blank (by decide)) hvalue)
  have hassigned : Skips n (a.padLeft ++ '=' :: (a.padRight ++ '"' :: (a.value ++ ['"']))) y :=
    (skips_of_blank hn (hn.not_starts_handle (by decide)) a.isBlank_padLeft).append
      (.cons (afterAttribute?_of_not_blank (by decide)) hquoted)
  have hnamed := (skips_of_not_blank fun c hc => isBlank_of_isNameChar (a.isNameChar_name c hc)).append
    hassigned
  exact (skips_of_blank hn hhandle a.isBlank_gap).append hnamed

/-- **An attribute as it is looked for is found**, up to its last blank. -/
theorem Tight.splitAttribute?_text_append (h : a.Tight n) (hn : IsName n) (y : List Char) :
    splitAttribute? n (a.text ++ y) = some (a.gap.dropLast, y) := by
  have hlast := List.dropLast_append_getLast a.gap_ne_nil
  have hblank := a.isBlank_gap _ (List.getLast_mem a.gap_ne_nil)
  have hinit : ∀ c ∈ a.gap.dropLast, isBlank c = true := fun c hc =>
    a.isBlank_gap c (List.mem_of_mem_dropLast hc)
  have hfound :
      splitAttribute? n (a.gap.getLast a.gap_ne_nil :: (handle n ++ (a.value ++ '"' :: y))) = some ([], y) :=
    splitAttribute?_of_some (afterAttribute?_handle hblank a.quote_notMem_value)
  have hskips := skips_of_blank hn (hn.not_starts_handle (isNameChar_of_isBlank hblank)
    (x := handle n ++ (a.value ++ '"' :: y))) hinit
  rw [h.text_append, ← hlast, List.append_assoc, List.dropLast_concat]
  rw [Skips, hfound] at hskips
  simpa using hskips

end Attribute

end SlidePress.Svg
