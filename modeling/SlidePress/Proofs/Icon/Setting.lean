import SlidePress.Proofs.Icon.Finding

/-! # Setting an attribute of the root tag

Whether an attribute is there is looked up in the text up to the first closing bracket. Read by the
parts of the markup (`Markup.set`): an attribute of the root tag is given its value if nothing stands
in front of the tag, it is found, and no value up to its own holds a closing bracket
(`Markup.Reaches`); otherwise it is inserted as the first one, be it there or not. That this is what
happens to the text is `Markup.setAttribute_text`. -/

namespace SlidePress.Svg

open Text (isBlank)

/-! ### Attributes that are given a value -/

/-- An attribute that is to be set: its name and its value. -/
structure Setting where
  name : List Char
  value : List Char
  isName_name : IsName name
  quote_notMem_value : '"' ∉ value

/-- The attribute that is written for a setting, behind some blanks. -/
def Setting.behind (s : Setting) (before : List Char) (h : ∀ c ∈ before, isBlank c = true) :
    Attribute where
  gap := before ++ [' ']
  name := s.name
  padLeft := []
  padRight := []
  value := s.value
  gap_ne_nil := by simp
  isBlank_gap := by
    intro c hc
    rcases List.mem_append.1 hc with hc | hc
    · exact h c hc
    · rw [List.mem_singleton.1 hc]
      decide
  name_ne_nil := s.isName_name.1
  isNameChar_name := s.isName_name.2
  isBlank_padLeft := by simp
  isBlank_padRight := by simp
  quote_notMem_value := s.quote_notMem_value

/-- A setting in front of all attributes. -/
def Setting.first (s : Setting) : Attribute := s.behind [] isBlank_of_mem_nil

/-- A setting in place of an attribute. -/
def Setting.inPlaceOf (s : Setting) (a : Attribute) : Attribute :=
  s.behind a.gap.dropLast fun c hc => a.isBlank_gap c (List.mem_of_mem_dropLast hc)

section Setting

variable {s t : Setting} {a : Attribute} {as : List Attribute} {n y : List Char}

theorem Setting.text_behind (before : List Char) (h : ∀ c ∈ before, isBlank c = true) :
    (s.behind before h).text = before ++ written s.name s.value := by
  simp [Attribute.text, behind, written]

theorem Setting.tight_behind (before : List Char) (h : ∀ c ∈ before, isBlank c = true) :
    (s.behind before h).Tight n ↔ s.name = n := by
  simp [Attribute.Tight, behind]

/-- The attributes with a setting in place of the first one that is found by its name. -/
def setFirst (s : Setting) : List Attribute → List Attribute
  | [] => []
  | a :: as => if a.Tight s.name then s.inPlaceOf a :: as else a :: setFirst s as

theorem skips_attributesText (hn : IsName n) :
    ∀ {as : List Attribute}, (∀ a ∈ as, ¬ a.Tight n) → (∀ a ∈ as, ¬ Lures n a.value) →
      Skips n (attributesText as) y
  | [], _, _ => skips_nil
  | a :: as, htight, hlure => by
    have hrest : Skips n (attributesText as) y :=
      skips_attributesText hn (fun b hb => htight b (List.mem_cons_of_mem a hb))
        fun b hb => hlure b (List.mem_cons_of_mem a hb)
    rw [attributesText_cons]
    exact (Attribute.skips hn (htight a List.mem_cons_self) (hlure a List.mem_cons_self)).append hrest

/-- **The first attribute that can be found is found**, and writing the setting in its place is what
`setFirst` does. -/
theorem exists_splitAttribute?_attributesText (y : List Char) :
    ∀ {as : List Attribute}, (∃ a ∈ as, a.Tight s.name) → (∀ a ∈ as, ¬ Lures s.name a.value) →
      ∃ before rest, splitAttribute? s.name (attributesText as ++ y) = some (before, rest) ∧
        before ++ written s.name s.value ++ rest = attributesText (setFirst s as) ++ y
  | [], h, _ => by simp at h
  | a :: as, h, hlure => by
    rw [attributesText_cons, List.append_assoc, setFirst]
    by_cases htight : a.Tight s.name
    · refine ⟨_, _, htight.splitAttribute?_text_append s.isName_name _, ?_⟩
      rw [if_pos htight, attributesText_cons, Setting.inPlaceOf, Setting.text_behind]
      simp
    · have hrest : ∃ b ∈ as, b.Tight s.name := by simpa [htight] using h
      obtain ⟨before, rest, hsplit, htext⟩ := exists_splitAttribute?_attributesText y hrest
        fun b hb => hlure b (List.mem_cons_of_mem a hb)
      have hskip : Skips s.name a.text (attributesText as ++ y) :=
        Attribute.skips s.isName_name htight (hlure a List.mem_cons_self)
      rw [Skips, hsplit] at hskip
      refine ⟨a.text ++ before, rest, hskip, ?_⟩
      rw [if_neg htight, attributesText_cons]
      simpa using htext

end Setting

/-! ### The text up to the first closing bracket -/

theorem takeWhile_ne_append {c : Char} {u v : List Char} (h : c ∉ u) :
    (u ++ c :: v).takeWhile (· != c) = u :=
  (Text.takeWhile_append_of_head (forall_ne_of_notMem h) (by simp)).1

theorem Attribute.notMem_key {c : Char} (hblank : isBlank c = false) (hname : isNameChar c = false)
    (hc : c ≠ '=') (a : Attribute) : c ∉ a.key := by
  intro h
  rcases Attribute.of_mem_key h with h | h | h
  · exact absurd h (by simp [hblank])
  · exact absurd h (by simp [hname])
  · exact hc h

theorem Attribute.bracket_notMem_text {a : Attribute} (h : '>' ∉ a.value) : '>' ∉ a.text := by
  rw [Attribute.text_eq]
  have hkey : '>' ∉ a.key := a.notMem_key (by decide) (by decide) (by decide)
  simp [hkey, h]

/-- The attributes in front of the first value that holds a closing bracket. -/
def visible (as : List Attribute) : List Attribute := as.takeWhile fun a => '>' ∉ a.value

/-- What is cut off within the value of an attribute holds only one quote. -/
theorem Attribute.count_takeWhile_text_append {a : Attribute} (h : '>' ∈ a.value) (y : List Char) :
    ((a.text ++ y).takeWhile (· != '>')).count '"' ≤ 1 := by
  obtain ⟨u, v, hvalue, hu⟩ := List.eq_append_cons_of_mem h
  have hkey : '>' ∉ a.key := a.notMem_key (by decide) (by decide) (by decide)
  have hquote : '"' ∉ a.key := a.notMem_key (by decide) (by decide) (by decide)
  have hquote' : '"' ∉ u := fun hm => a.quote_notMem_value (by rw [hvalue]; simp [hm])
  have htext : a.text ++ y = (a.key ++ '"' :: u) ++ '>' :: (v ++ '"' :: y) := by
    rw [a.text_eq, hvalue]
    simp
  have hfree : '>' ∉ a.key ++ '"' :: u := by simp [hkey, hu]
  rw [htext, takeWhile_ne_append hfree]
  simp [List.count_append, List.count_eq_zero.2 hquote, List.count_eq_zero.2 hquote']

/-- The end of a tag is blanks and slashes up to its bracket. -/
theorem Markup.exists_close_eq (m : Markup) :
    ∃ u, m.close = u ++ ['>'] ∧ ∀ c ∈ u, isBlank c = true ∨ c = '/' := by
  unfold close
  cases m.slash with
  | false => exact ⟨m.space, rfl, fun c hc => .inl (m.isBlank_space c hc)⟩
  | true =>
    refine ⟨m.space ++ ['/'], by simp, fun c hc => ?_⟩
    rcases List.mem_append.1 hc with hc | hc
    · exact .inl (m.isBlank_space c hc)
    · exact .inr (List.mem_singleton.1 hc)

theorem Markup.count_takeWhile_ending (m : Markup) :
    (m.ending.takeWhile (· != '>')).count '"' ≤ 1 := by
  obtain ⟨u, hclose, hu⟩ := m.exists_close_eq
  have hfree {d : Char} (hblank : isBlank d = false) (hslash : d ≠ '/') : d ∉ u := by
    intro hd
    rcases hu d hd with h | h
    · exact absurd h (by simp [hblank])
    · exact hslash h
  have hbracket : '>' ∉ u := hfree (by decide) (by decide)
  have hquote : '"' ∉ u := hfree (by decide) (by decide)
  have hending : m.ending = u ++ '>' :: m.rest := by
    rw [ending, hclose]
    simp
  rw [hending, takeWhile_ne_append hbracket, List.count_eq_zero.2 hquote]
  exact Nat.zero_le 1

/-- **The text up to the first closing bracket** holds the attributes in front of the first value
with one, and no quoted value behind them. -/
theorem Markup.exists_takeWhile_attributesText (m : Markup) :
    ∀ as : List Attribute, ∃ t, (attributesText as ++ m.ending).takeWhile (· != '>') =
      attributesText (visible as) ++ t ∧ t.count '"' ≤ 1
  | [] => ⟨_, rfl, m.count_takeWhile_ending⟩
  | a :: as => by
    rw [attributesText_cons, List.append_assoc, visible, List.takeWhile_cons]
    by_cases hvalue : '>' ∈ a.value
    · rw [if_neg (by simpa using hvalue)]
      exact ⟨_, rfl, Attribute.count_takeWhile_text_append hvalue _⟩
    · obtain ⟨t, htext, ht⟩ := m.exists_takeWhile_attributesText as
      have hfree := forall_ne_of_notMem (Attribute.bracket_notMem_text hvalue)
      rw [if_pos (by simpa using hvalue), List.takeWhile_append_of_pos hfree, htext, attributesText_cons]
      exact ⟨t, by rw [visible, List.append_assoc], ht⟩

/-! ### Setting an attribute -/

theorem setAttribute_of_some {n v cs before rest : List Char}
    (hhead : (splitAttribute? n (cs.takeWhile (· != '>'))).isSome = true)
    (h : splitAttribute? n cs = some (before, rest)) (hinert : '\\' ∉ written n v) :
    setAttribute n v cs = .ok (before ++ written n v ++ rest) := by
  have hexpand (whole : List Char) : Replacement.expand whole (written n v) = .ok (written n v) :=
    Replacement.expand_eq_self whole _ hinert
  simp only [setAttribute, hhead, if_true, h, hexpand]
  rfl

theorem setAttribute_of_none {n v cs : List Char}
    (hhead : splitAttribute? n (cs.takeWhile (· != '>')) = none) :
    setAttribute n v cs = .ok (Text.replaceUpTo 1 rootTag (rootTag ++ written n v) cs) := by
  simp only [setAttribute, hhead, Option.isSome_none, Bool.false_eq_true, if_false]
  rfl

namespace Markup

variable {m : Markup} {s t : Setting} {n : List Char} {names : List (List Char)}

/-- Whether an attribute of the root tag is found: nothing stands in front of the tag, and the
attribute is one as it is looked for, in front of the first closing bracket. -/
def Reaches (m : Markup) (n : List Char) : Prop :=
  m.front = [] ∧ ∃ a ∈ visible m.attributes, a.Tight n

instance (m : Markup) (n : List Char) : Decidable (m.Reaches n) :=
  decidable_of_iff (m.front.isEmpty = true ∧ ∃ a ∈ visible m.attributes, a.Tight n)
    (by rw [List.isEmpty_iff, Reaches])

/-- Markup with an attribute of its root tag set: in place of the first one that is found, or in
front of all if none is. -/
def set (m : Markup) (s : Setting) : Markup :=
  { m with attributes := if m.Reaches s.name then setFirst s m.attributes else s.first :: m.attributes }

/-- Nothing in front of the root tag looks like the tag or like one of some attributes, and no value
ends like the beginning of one. -/
structure Plain (names : List (List Char)) (m : Markup) : Prop where
  no_rootTag : ¬ rootTag <:+: leadsText m.front
  no_handle : ∀ n ∈ names, ¬ handle n <:+: leadsText m.front
  no_lure : ∀ n ∈ names, ∀ a ∈ m.attributes, ¬ Lures n a.value

theorem text_of_front_nil (h : m.front = []) :
    m.text = rootTag ++ (attributesText m.attributes ++ m.ending) := by
  rw [text, h, leadsText_nil, List.nil_append]

theorem skips_rootTag {y : List Char} : Skips n rootTag y :=
  skips_of_not_blank (forall_mem_of_all (by decide))

/-- The text of markup with nothing in front, up to the first closing bracket. -/
theorem exists_takeWhile_text (h : m.front = []) :
    ∃ t, m.text.takeWhile (· != '>') = rootTag ++ (attributesText (visible m.attributes) ++ t) ∧
      t.count '"' ≤ 1 := by
  obtain ⟨t, htext, ht⟩ := m.exists_takeWhile_attributesText m.attributes
  have hroot : ∀ c ∈ rootTag, (c != '>') = true := forall_mem_of_all (by decide)
  refine ⟨t, ?_, ht⟩
  rw [text_of_front_nil h, List.takeWhile_append_of_pos hroot, htext]

/-- What stands in front of the root tag holds a closing bracket, and nothing that looks like an
attribute in front of it. -/
theorem splitAttribute?_takeWhile_of_front (hm : m.Plain names) (hn : n ∈ names)
    (h : m.front ≠ []) : splitAttribute? n (m.text.takeWhile (· != '>')) = none := by
  have hbracket : '>' ∈ leadsText m.front := by
    obtain ⟨l, ls, hfront⟩ := List.exists_cons_of_ne_nil h
    rw [hfront, leadsText_cons, Lead.text]
    cases l.kind <;> simp [LeadKind.closing]
  obtain ⟨u, v, hfront, hu⟩ := List.eq_append_cons_of_mem hbracket
  have hhead : m.text.takeWhile (· != '>') = u := by
    rw [text, hfront, List.append_assoc, List.cons_append, takeWhile_ne_append hu]
  cases hsplit : splitAttribute? n (m.text.takeWhile (· != '>')) with
  | none => rfl
  | some found =>
    obtain ⟨before, rest⟩ := found
    obtain ⟨c, w, hfound⟩ := exists_of_splitAttribute? hsplit
    have hwithin : handle n <:+: leadsText m.front := by
      rw [hfront, ← hhead, hfound]
      exact ⟨before ++ [c], w ++ '"' :: rest ++ '>' :: v, by simp⟩
    exact absurd hwithin (hm.no_handle n hn)

/-- The first tag is the root tag, so an attribute is inserted there. -/
theorem replaceUpTo_rootTag (hm : m.Plain names) (new : List Char) :
    Text.replaceUpTo 1 rootTag (rootTag ++ new) m.text =
      leadsText m.front ++ (rootTag ++ (new ++ (attributesText m.attributes ++ m.ending))) := by
  have hsplit : Text.splitAt? rootTag m.text =
      some (leadsText m.front, attributesText m.attributes ++ m.ending) :=
    Text.splitAt?_append_self (by decide) hm.no_rootTag
  rw [Text.replaceUpTo_one (by decide) hsplit]
  simp

theorem setAttribute_text_of_reaches (hm : m.Plain names) (hs : s.name ∈ names)
    (h : m.Reaches s.name) (hinert : '\\' ∉ written s.name s.value) :
    setAttribute s.name s.value m.text = .ok (m.set s).text := by
  obtain ⟨hfront, a, ha, htight⟩ := h
  have hvisible : visible m.attributes ⊆ m.attributes := List.takeWhile_subset _
  have hlure := hm.no_lure s.name hs
  obtain ⟨t, hhead, -⟩ := exists_takeWhile_text hfront
  obtain ⟨_, _, hsome, -⟩ := exists_splitAttribute?_attributesText t ⟨a, ha, htight⟩
    fun b hb => hlure b (hvisible hb)
  obtain ⟨before, rest, hsplit, htext⟩ := exists_splitAttribute?_attributesText m.ending
    ⟨a, hvisible ha, htight⟩ hlure
  have hfound : splitAttribute? s.name m.text = some (rootTag ++ before, rest) := by
    rw [text_of_front_nil hfront, skips_rootTag, hsplit]
    rfl
  have hisSome : (splitAttribute? s.name (m.text.takeWhile (· != '>'))).isSome = true := by
    rw [hhead, skips_rootTag, hsome]
    rfl
  have hset : (m.set s).text = rootTag ++ (attributesText (setFirst s m.attributes) ++ m.ending) := by
    rw [text_of_front_nil (m := m.set s) hfront, set, if_pos ⟨hfront, a, ha, htight⟩]
    rfl
  rw [setAttribute_of_some hisSome hfound hinert, hset, ← htext]
  simp

theorem setAttribute_text_of_not_reaches (hm : m.Plain names) (hs : s.name ∈ names)
    (h : ¬ m.Reaches s.name) : setAttribute s.name s.value m.text = .ok (m.set s).text := by
  have hnone : splitAttribute? s.name (m.text.takeWhile (· != '>')) = none := by
    by_cases hfront : m.front = []
    · obtain ⟨t, hhead, ht⟩ := exists_takeWhile_text hfront
      have hskips : Skips s.name (attributesText (visible m.attributes)) t :=
        skips_attributesText s.isName_name (fun a ha htight => h ⟨hfront, a, ha, htight⟩)
          fun a ha => hm.no_lure s.name hs a (List.takeWhile_subset _ ha)
      rw [hhead, skips_rootTag, hskips, splitAttribute?_eq_none_of_count ht]
      rfl
    · exact splitAttribute?_takeWhile_of_front hm hs hfront
  have hset : (m.set s).text =
      leadsText m.front ++ (rootTag ++ (s.first.text ++ (attributesText m.attributes ++ m.ending))) := by
    rw [text, set, if_neg h, attributesText_cons, List.append_assoc]
    rfl
  rw [setAttribute_of_none hnone, replaceUpTo_rootTag hm, hset, Setting.first, Setting.text_behind]
  rfl

/-- **What is set in a text is set in its parts.** -/
theorem setAttribute_text (hm : m.Plain names) (hs : s.name ∈ names)
    (hinert : m.Reaches s.name → '\\' ∉ written s.name s.value) :
    setAttribute s.name s.value m.text = .ok (m.set s).text := by
  by_cases h : m.Reaches s.name
  · exact setAttribute_text_of_reaches hm hs h (hinert h)
  · exact setAttribute_text_of_not_reaches hm hs h

end Markup

end SlidePress.Svg
