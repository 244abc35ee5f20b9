import Mathlib.Data.List.TakeWhile
import SlidePress.Proofs.Attempt
import SlidePress.Proofs.Text.Split
import SlidePress.Proofs.Yaml.Lexing

/-! # Reading double quotes back

A text is put in double quotes with a backslash in front of each double quote in it (`escaped`). If it
has no line ends, its reader goes over it in rounds: one round takes a double quote with the backslash in
front of it, a run of blanks, or any other character, and keeps what it takes (`advances`). So a text
without backslashes is read back (`quotedRest_escaped`). A backslash of its own is read with what stands
behind it, several characters as one, and nothing makes up for it: what is read is shorter than the text
(`length_of_quotedRest`). -/

namespace SlidePress.Yaml

/-! ### Places -/

namespace Cursor

variable {c : Cursor} {a : Char} {r : List Char}

theorem rest_skip (n : Nat) (c : Cursor) : (c.skip n).rest = c.rest.drop n := by
  induction n generalizing c with
  | zero => rfl
  | succ n ih => rw [skip, ih, rest_next, List.drop_tail]

theorem rest_pass (p : Char → Bool) (c : Cursor) : (c.pass p).rest = c.rest.dropWhile p := by
  have hsplit : c.run p ++ c.rest.dropWhile p = c.rest := List.takeWhile_append_dropWhile
  rw [pass, rest_skip]
  conv_lhs => rw [← hsplit]
  exact List.drop_left

theorem peek_eq (h : c.rest = a :: r) : c.peek = a := by
  rw [peek, h]
  rfl

theorem rest_next_eq (h : c.rest = a :: r) : c.next.rest = r := by
  rw [rest_next, h]
  rfl

/-- Where no line ends, there is no line end. -/
theorem lineBreak?_eq_none (h : ∀ a ∈ c.rest.head?, isBreak a = false) : c.lineBreak? = none := by
  unfold lineBreak?
  split
  · rename_i hrest
    have hbreak := h '\r' (by rw [hrest]; rfl)
    cases hbreak
  · rename_i a _ _ hrest
    have hbreak := h a (by rw [hrest]; rfl)
    simp only [isBreak, Bool.or_eq_false_iff] at hbreak
    obtain ⟨⟨⟨⟨hlf, hcr⟩, hnel⟩, hls⟩, hps⟩ := hbreak
    simp only [hlf, hcr, hnel, hls, hps, Bool.or_self, Bool.false_eq_true, if_false]
  · rfl

end Cursor

/-! ### Escaped texts -/

/-- A text with a backslash in front of each double quote. -/
def escaped (cs : List Char) : List Char := Text.replaceAll ['"'] ['\\', '"'] cs

theorem escaped_nil : escaped [] = [] := Text.replaceAll_nil (List.cons_ne_nil _ _)

theorem escaped_quote (cs : List Char) : escaped ('"' :: cs) = '\\' :: '"' :: escaped cs :=
  Text.replaceAll_append (List.cons_ne_nil _ _) cs

theorem escaped_cons {a : Char} (h : a ≠ '"') (cs : List Char) : escaped (a :: cs) = a :: escaped cs :=
  Text.replaceAll_cons (List.cons_ne_nil _ _) fun hpre =>
    h (List.cons_prefix_cons.1 hpre).1.symm

theorem escaped_append {as : List Char} (h : '"' ∉ as) (cs : List Char) :
    escaped (as ++ cs) = as ++ escaped cs := by
  induction as with
  | nil => rfl
  | cons a as ih =>
    rw [List.mem_cons, not_or] at h
    rw [List.cons_append, escaped_cons (Ne.symm h.1), ih h.2, List.cons_append]

theorem length_le_escaped (cs : List Char) : cs.length ≤ (escaped cs).length := by
  induction cs with
  | nil => exact Nat.zero_le _
  | cons a cs ih =>
    by_cases h : a = '"'
    · subst h
      rw [escaped_quote]
      exact Nat.succ_le_succ (ih.trans (Nat.le_succ _))
    · rw [escaped_cons h]
      exact Nat.succ_le_succ ih

theorem mem_of_mem_escaped {a : Char} {cs : List Char} (h : a ∈ escaped cs) :
    a = '\\' ∨ a = '"' ∨ a ∈ cs := by
  rcases Text.mem_of_mem_replaceFrom h with h | h
  · rcases List.mem_pair.1 h with rfl | rfl
    · exact .inl rfl
    · exact .inr (.inl rfl)
  · exact .inr (.inr h)

/-- A character that may stand in a text and ends no line. -/
def IsInline (a : Char) : Prop := isAllowed a = true ∧ isBreak a = false

instance (a : Char) : Decidable (IsInline a) := inferInstanceAs (Decidable (_ ∧ _))

theorem IsInline.ne_nul {a : Char} (h : IsInline a) : a ≠ '\x00' := by
  rintro rfl
  cases isAllowed_nul.symm.trans h.1

/-- A blank or a tab. -/
def isSpace (a : Char) : Bool := a == ' ' || a == '\t'

theorem IsInline.isGap_eq {a : Char} (h : IsInline a) : isGap a = isSpace a := by
  have hend : isEnd a = false := beq_false_of_ne h.ne_nul
  rw [isGap, endsLine, h.2, hend]
  exact Bool.or_false _

/-- What stands first in an escaped text in front of a double quote ends no line, and it is a blank only if
the text itself begins with it. -/
theorem head_escaped {v r : List Char} (hv : ∀ a ∈ v, IsInline a) :
    ∃ b, (escaped v ++ '"' :: r).head? = some b ∧ IsInline b ∧
      (isSpace b = true → v.head? = some b) := by
  cases v with
  | nil => exact ⟨'"', by rw [escaped_nil]; rfl, by decide, by decide⟩
  | cons x v =>
    by_cases hx : x = '"'
    · subst hx
      exact ⟨'\\', by rw [escaped_quote]; rfl, by decide, nofun⟩
    · exact ⟨x, by rw [escaped_cons hx]; rfl, hv x List.mem_cons_self, fun _ => rfl⟩

/-! ### Rounds -/

variable {n : Nat} {got v r : List Char} {c : Cursor}

theorem quotedRest_of_quote (h : c.peek = '"') :
    quotedRest '"' (n + 1) got c = .ok (got.reverse, c.next) := by
  rw [quotedRest, h]
  rfl

theorem quotedRest_of_backslash (h : c.peek = '\\') : quotedRest '"' (n + 1) got c =
    escape? c.next >>= fun r => quotedRest '"' n (r.1.reverse ++ got) r.2 := by
  rw [quotedRest, h]
  rfl

theorem quotedRest_of_gap (h : isGap c.peek = true) : quotedRest '"' (n + 1) got c =
    quotedSpace c >>= fun r => quotedRest '"' n (r.1.reverse ++ got) r.2 := by
  have hquote : c.peek ≠ '"' := fun heq => by rw [heq] at h; cases h
  have hback : c.peek ≠ '\\' := fun heq => by rw [heq] at h; cases h
  simp only [quotedRest, beq_false_of_ne hquote, beq_false_of_ne hback, h, Bool.and_false,
    Bool.false_eq_true, if_false, if_true]

theorem quotedRest_of_other (hquote : c.peek ≠ '"') (hback : c.peek ≠ '\\')
    (h : isGap c.peek = false) :
    quotedRest '"' (n + 1) got c = quotedRest '"' n (c.peek :: got) c.next := by
  simp only [quotedRest, beq_false_of_ne hquote, beq_false_of_ne hback, h, Bool.and_false,
    Bool.false_eq_true, if_false]

/-- A run of blanks in front of a character that ends no line is kept as it is. -/
theorem quotedSpace_eq {b : Char} (h : (c.rest.dropWhile isSpace).head? = some b)
    (hb : IsInline b) : quotedSpace c = .ok (c.rest.takeWhile isSpace, c.pass isSpace) := by
  have hrest : (c.pass isSpace).rest.head? = some b := by rwa [Cursor.rest_pass]
  have hpeek : (c.pass isSpace).peek = b := by
    rw [Cursor.peek, List.headD_eq_head?_getD, hrest]
    rfl
  have hend : isEnd (c.pass isSpace).peek = false := by
    rw [hpeek]
    exact beq_false_of_ne hb.ne_nul
  have hbreak : (c.pass isSpace).lineBreak? = none := by
    refine Cursor.lineBreak?_eq_none fun a ha => ?_
    rw [hrest] at ha
    cases ha
    exact hb.2
  have hblank : (fun a : Char => a == ' ' || a == '\t') = isSpace := rfl
  simp only [quotedSpace, hblank, hend, hbreak, Bool.false_eq_true, if_false]
  rfl

/-- The reader of double quotes goes over the beginning of a text, and keeps what it goes over. -/
def Advances (n : Nat) (got v r : List Char) (c : Cursor) : Prop :=
  ∃ t u d, v = t ++ u ∧ t ≠ [] ∧ '\\' ∉ t ∧ d.rest = escaped u ++ '"' :: r ∧
    quotedRest '"' (n + 1) got c = quotedRest '"' n (t.reverse ++ got) d

/-- A double quote is read with the backslash in front of it. -/
theorem advances_quote (n : Nat) (got : List Char) (hc : c.rest = escaped ('"' :: v) ++ '"' :: r) :
    Advances n got ('"' :: v) r c := by
  rw [escaped_quote] at hc
  have hnext : c.next.rest = '"' :: (escaped v ++ '"' :: r) := Cursor.rest_next_eq hc
  have hescape : escape? c.next = .ok (['"'], c.next.next) := by
    rw [escape?, Cursor.peek_eq hnext]
    rfl
  refine ⟨['"'], v, c.next.next, rfl, List.cons_ne_nil _ _, by decide, Cursor.rest_next_eq hnext, ?_⟩
  rw [quotedRest_of_backslash (Cursor.peek_eq hc), hescape]
  rfl

/-- The blanks at the beginning of a text. -/
theorem exists_blanks (v : List Char) : ∃ t u, v = t ++ u ∧ (∀ a ∈ t, isSpace a = true) ∧
    ∀ a ∈ u.head?, isSpace a = false := by
  refine ⟨_, _, List.takeWhile_append_dropWhile.symm, fun a ha => List.mem_takeWhile_imp ha,
    fun a ha => ?_⟩
  have hhead := List.head?_dropWhile_not isSpace v
  rwa [ha] at hhead

/-- Blanks are read up to the first character that is none. -/
theorem advances_blank (n : Nat) (got : List Char) {x : Char} (hspace : isSpace x = true)
    (hv : ∀ a ∈ x :: v, IsInline a) (hc : c.rest = escaped (x :: v) ++ '"' :: r) :
    Advances n got (x :: v) r c := by
  obtain ⟨t, u, htu, ht, hu⟩ := exists_blanks (x :: v)
  have hnotMem {a : Char} (ha : isSpace a = false) : a ∉ t := fun hmem => by
    rw [ht a hmem] at ha
    cases ha
  have hne : t ≠ [] := by
    rintro rfl
    have hx : isSpace x = false := hu x (by rw [← List.nil_append u, ← htu]; rfl)
    rw [hspace] at hx
    cases hx
  obtain ⟨b, hhead, hb, hstart⟩ := head_escaped (r := r) fun a ha =>
    hv a (htu ▸ List.mem_append_right t ha)
  have hrest : c.rest = t ++ (escaped u ++ '"' :: r) := by
    rw [hc, htu, escaped_append (hnotMem (by decide)), List.append_assoc]
  obtain ⟨htake, hdrop⟩ := Text.takeWhile_append_of_head ht (v := escaped u ++ '"' :: r)
    fun a ha => by
      obtain rfl : b = a := Option.some.inj (hhead.symm.trans ha)
      cases hblank : isSpace b with
      | false => rfl
      | true => exact hblank.symm.trans (hu b (hstart hblank))
  have hgap : isGap c.peek = true := by
    obtain ⟨y, t, rfl⟩ := List.exists_cons_of_ne_nil hne
    obtain rfl : x = y := (List.cons.inj htu).1
    rw [Cursor.peek_eq hrest, (hv x List.mem_cons_self).isGap_eq, hspace]
  have hspaces : quotedSpace c = .ok (t, c.pass isSpace) := by
    rw [quotedSpace_eq (by rw [hrest, hdrop, hhead]) hb, hrest, htake]
  refine ⟨t, u, c.pass isSpace, htu, hne, hnotMem (by decide), ?_, ?_⟩
  · rw [Cursor.rest_pass, hrest, hdrop]
  · rw [quotedRest_of_gap hgap, hspaces]
    rfl

/-- Any other character but a backslash stands for itself. -/
theorem advances_other (n : Nat) (got : List Char) {x : Char} (hback : x ≠ '\\') (hquote : x ≠ '"')
    (hspace : isSpace x = false) (hx : IsInline x) (hc : c.rest = escaped (x :: v) ++ '"' :: r) :
    Advances n got (x :: v) r c := by
  rw [escaped_cons hquote] at hc
  have hpeek : c.peek = x := Cursor.peek_eq hc
  have hgap : isGap c.peek = false := by rw [hpeek, hx.isGap_eq, hspace]
  refine ⟨[x], v, c.next, rfl, List.cons_ne_nil _ _, by simpa using hback.symm,
    Cursor.rest_next_eq hc, ?_⟩
  rw [quotedRest_of_other (by rwa [hpeek]) (by rwa [hpeek]) hgap, hpeek]
  rfl

/-- **One round** over an escaped text that does not begin with a backslash. -/
theorem advances (n : Nat) (got : List Char) {x : Char} (hx : x ≠ '\\') (hv : ∀ a ∈ x :: v, IsInline a)
    (hc : c.rest = escaped (x :: v) ++ '"' :: r) : Advances n got (x :: v) r c := by
  by_cases hquote : x = '"'
  · subst hquote
    exact advances_quote n got hc
  · cases hspace : isSpace x with
    | true => exact advances_blank n got hspace hv hc
    | false => exact advances_other n got hx hquote hspace (hv x List.mem_cons_self) hc

/-- **A text without backslashes** is read back. -/
theorem quotedRest_escaped (hv : ∀ a ∈ v, IsInline a) (hback : '\\' ∉ v) (hn : v.length < n)
    (hc : c.rest = escaped v ++ '"' :: r) :
    ∃ d, quotedRest '"' n got c = .ok (got.reverse ++ v, d) ∧ d.rest = r := by
  induction n generalizing v got c with
  | zero => exact absurd hn (Nat.not_lt_zero _)
  | succ n ih =>
    cases v with
    | nil =>
      rw [escaped_nil] at hc
      exact ⟨c.next, by rw [quotedRest_of_quote (Cursor.peek_eq hc), List.append_nil],
        Cursor.rest_next_eq hc⟩
    | cons x v =>
      obtain ⟨t, u, d, htu, ht, -, hd, hround⟩ :=
        advances n got (fun hx => hback (hx ▸ List.mem_cons_self)) hv hc
      rw [htu] at hv hback hn ⊢
      have hlength : 0 < t.length := List.length_pos_of_ne_nil ht
      rw [List.length_append] at hn
      obtain ⟨e, he, hr⟩ := @ih (t.reverse ++ got) u d
        (fun a ha => hv a (List.mem_append_right t ha))
        (fun ha => hback (List.mem_append_right t ha)) (by omega) hd
      refine ⟨e, ?_, hr⟩
      rw [hround, he]
      simp

/-! ### Backslashes -/

theorem isSome_hexValue? {digits : List Char} {m k : Nat}
    (h : digits.foldlM (fun n c => (Json.hexValue? c).map fun d => n * 16 + d) m = some k) :
    ∀ a ∈ digits, (Json.hexValue? a).isSome = true := by
  induction digits generalizing m with
  | nil => exact nofun
  | cons a digits ih =>
    rw [List.foldlM_cons] at h
    obtain ⟨j, hj, h⟩ := Option.bind_eq_some_iff.1 h
    obtain ⟨d, hd, -⟩ := Option.map_eq_some_iff.1 hj
    exact List.forall_mem_cons.2 ⟨Option.isSome_of_eq_some hd, ih h⟩

/-- Where digits are expected and found, none of them is a double quote or the backslash in front of
one, so they are characters of the text itself. -/
theorem drop_escaped {width : Nat} (hwidth : width ≤ (escaped v ++ '"' :: r).length)
    (h : ∀ a ∈ (escaped v ++ '"' :: r).take width, (Json.hexValue? a).isSome = true) :
    (escaped v ++ '"' :: r).drop width = escaped (v.drop width) ++ '"' :: r := by
  induction width generalizing v with
  | zero => rfl
  | succ width ih =>
    cases v with
    | nil =>
      rw [escaped_nil] at h
      have hquote := h '"' List.mem_cons_self
      cases hquote
    | cons x v =>
      by_cases hx : x = '"'
      · subst hx
        rw [escaped_quote] at h
        have hback := h '\\' List.mem_cons_self
        cases hback
      · rw [escaped_cons hx] at h hwidth ⊢
        exact ih (Nat.le_of_succ_le_succ hwidth) fun a ha => h a (List.mem_cons_of_mem x ha)

/-- **What is read of a backslash** and the text behind it is one character. Then the text is at its end,
or there is a double quote that has lost its backslash, or the text goes on with less of it. -/
theorem escape?_cases {text : List Char} {e : Cursor} (hv : ∀ a ∈ v, IsInline a)
    (hc : c.rest = escaped v ++ ['"']) (h : escape? c = .ok (text, e)) :
    ∃ a, text = [a] ∧ ((v = [] ∧ e.rest = []) ∨ (v ≠ [] ∧ e.peek = '"') ∨
      ∃ t u, v = t ++ u ∧ t ≠ [] ∧ e.rest = escaped u ++ ['"']) := by
  cases v with
  | nil =>
    rw [escaped_nil] at hc
    rw [escape?, Cursor.peek_eq hc] at h
    cases h
    exact ⟨'"', rfl, .inl ⟨rfl, Cursor.rest_next_eq hc⟩⟩
  | cons x v =>
    by_cases hx : x = '"'
    · subst hx
      rw [escaped_quote] at hc
      rw [escape?, Cursor.peek_eq hc] at h
      cases h
      exact ⟨'\\', rfl, .inr (.inl ⟨List.cons_ne_nil _ _, Cursor.peek_eq (Cursor.rest_next_eq hc)⟩)⟩
    · rw [escaped_cons hx] at hc
      have hnext : c.next.rest = escaped v ++ ['"'] := Cursor.rest_next_eq hc
      unfold escape? at h
      split at h
      · -- a letter
        cases h
        exact ⟨_, rfl, .inr (.inr ⟨[x], v, rfl, List.cons_ne_nil _ _, hnext⟩)⟩
      · split at h
        · -- the number of a character
          rename_i width _
          dsimp only at h
          split_ifs at h with hshort
          split at h
          · rename_i k hk
            obtain ⟨a, -, h⟩ := Attempt.bind_eq_ok.1 h
            cases h
            rw [hnext] at hshort hk
            have hwidth : width ≤ (escaped v ++ ['"']).length := by
              rw [List.length_take] at hshort
              omega
            have hdrop := drop_escaped hwidth (isSome_hexValue? hk)
            refine ⟨a, rfl, .inr (.inr ⟨x :: v.take width, v.drop width, ?_, List.cons_ne_nil _ _, ?_⟩)⟩
            · rw [List.cons_append, List.take_append_drop]
            · rw [Cursor.rest_skip, hnext, hdrop]
          · cases h
        · -- there is no line end
          have hbreak : c.lineBreak? = none := Cursor.lineBreak?_eq_none fun a ha => by
            rw [hc] at ha
            cases ha
            exact (hv x List.mem_cons_self).2
          rw [hbreak] at h
          cases h

/-- At its end a text in double quotes is not closed. -/
theorem quotedRest_of_nil (hc : c.rest = []) : quotedRest '"' n got c = .error .malformedYaml := by
  cases n with
  | zero => rfl
  | succ n =>
    have hpeek : c.peek = '\x00' := by
      rw [Cursor.peek, hc]
      rfl
    have hpass : ∀ p, (c.pass p).peek = '\x00' := fun p => by
      rw [Cursor.pass, Cursor.run, hc]
      exact hpeek
    have hspace : quotedSpace c = .error .malformedYaml := by
      unfold quotedSpace
      simp only [hpass]
      rfl
    rw [quotedRest_of_gap (by rw [hpeek]; rfl), hspace]
    rfl

/-- What is read from a backslash on is one character, or one character and what is read of an end of the
text. -/
theorem exists_of_backslash {w : List Char} {d : Cursor} (hv : ∀ a ∈ v, IsInline a)
    (hc : c.rest = escaped ('\\' :: v) ++ ['"']) (h : quotedRest '"' (n + 1) got c = .ok (w, d)) :
    ∃ a, (w = got.reverse ++ [a] ∧ v ≠ []) ∨ ∃ t u e, v = t ++ u ∧ t ≠ [] ∧
      e.rest = escaped u ++ ['"'] ∧ quotedRest '"' n (a :: got) e = .ok (w, d) := by
  rw [escaped_cons (by decide)] at hc
  rw [quotedRest_of_backslash (Cursor.peek_eq hc)] at h
  obtain ⟨⟨text, e⟩, hescape, h⟩ := Attempt.bind_eq_ok.1 h
  obtain ⟨a, rfl, ⟨-, hend⟩ | ⟨hne, hclosed⟩ | ⟨t, u, htu, ht, hrest⟩⟩ :=
    escape?_cases hv (Cursor.rest_next_eq hc) hescape
  · rw [quotedRest_of_nil hend] at h
    cases h
  · cases n with
    | zero => cases h
    | succ n =>
      rw [quotedRest_of_quote hclosed] at h
      cases h
      exact ⟨a, .inl ⟨by simp, hne⟩⟩
  · exact ⟨a, .inr ⟨t, u, e, htu, ht, hrest, h⟩⟩

/-- **What is read** is no longer than the text, and shorter if there is a backslash in it. -/
theorem length_of_quotedRest {w : List Char} {d : Cursor} (hv : ∀ a ∈ v, IsInline a)
    (hc : c.rest = escaped v ++ ['"']) (h : quotedRest '"' n got c = .ok (w, d)) :
    w.length ≤ got.length + v.length ∧ ('\\' ∈ v → w.length < got.length + v.length) := by
  induction n generalizing v got c with
  | zero => cases h
  | succ n ih =>
    cases v with
    | nil =>
      rw [escaped_nil] at hc
      rw [quotedRest_of_quote (Cursor.peek_eq hc)] at h
      cases h
      exact ⟨by rw [List.length_reverse]; exact Nat.le_refl _, nofun⟩
    | cons x v =>
      by_cases hx : x = '\\'
      · subst hx
        have hv' : ∀ a ∈ v, IsInline a := fun a ha => hv a (List.mem_cons_of_mem _ ha)
        have hless : w.length < got.length + (v.length + 1) := by
          obtain ⟨a, ⟨rfl, hne⟩ | ⟨t, u, e, rfl, ht, hrest, h⟩⟩ := exists_of_backslash hv' hc h
          · have hlength : 0 < v.length := List.length_pos_of_ne_nil hne
            simp only [List.length_append, List.length_reverse, List.length_singleton]
            omega
          · have hlength : 0 < t.length := List.length_pos_of_ne_nil ht
            have hle := (ih (fun b hb => hv' b (List.mem_append_right t hb)) hrest h).1
            simp only [List.length_append, List.length_cons] at hle ⊢
            omega
        exact ⟨hless.le, fun _ => hless⟩
      · obtain ⟨t, u, e, htu, ht, hback, he, hround⟩ := advances n got hx hv hc
        rw [htu] at hv ⊢
        rw [hround] at h
        obtain ⟨hle, hlt⟩ := ih (fun b hb => hv b (List.mem_append_right t hb)) he h
        simp only [List.length_append, List.length_reverse] at hle hlt ⊢
        refine ⟨by omega, fun hmem => ?_⟩
        have hshorter := hlt ((List.mem_append.1 hmem).resolve_left hback)
        omega

/-- **A text in double quotes** is read back if there is no backslash in it. -/
theorem quoted?_escaped (hv : ∀ a ∈ v, IsInline a) (hback : '\\' ∉ v) :
    ∃ d, quoted? ⟨'"' :: (escaped v ++ ['"']), 0, 0, 0⟩ = .ok (v, d) ∧ d.rest = [] := by
  refine quotedRest_escaped hv hback ?_ rfl
  have hlength := length_le_escaped v
  simp only [List.length_cons, List.length_append, List.length_nil]
  omega

/-- If there is a backslash in it, it is not. -/
theorem notMem_of_quoted? {d : Cursor} (hv : ∀ a ∈ v, IsInline a)
    (h : quoted? ⟨'"' :: (escaped v ++ ['"']), 0, 0, 0⟩ = .ok (v, d)) : '\\' ∉ v := fun hback => by
  have hless := (length_of_quotedRest hv rfl h).2 hback
  rw [List.length_nil, Nat.zero_add] at hless
  exact Nat.lt_irrefl _ hless

end SlidePress.Yaml
