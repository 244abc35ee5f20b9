import SlidePress.Proofs.Icon.SettingAll

/-! # A color in place of the current color

A color takes the place of the current color wherever that is filled in, in the whole text. Blanks
and brackets are not part of what is looked for, so it goes through the parts of markup one by one
(`Markup.recolor_text`), and of an attribute it changes nothing but the value (`Attribute.recolor_text`).
A color that can not itself be a part of what is looked for leaves no current color behind
(`not_infix_recolor`), so it is filled in once. -/

namespace SlidePress.Svg

open Text (isBlank replaceAll)

/-! ### In a text -/

section Text

variable {color : String} {c : Char} {cs u x y : List Char}

/-- What fills in a color. -/
def filled (color : String) : List Char := "fill=\"".toList ++ color.toList ++ ['"']

theorem filled_append (color : String) (y : List Char) :
    filled color ++ y = "fill=\"".toList ++ (color.toList ++ '"' :: y) := by
  unfold filled
  rw [List.append_assoc, List.append_assoc]
  rfl

theorem currentFill_ne_nil : currentFill ≠ [] := by decide

theorem currentFill_eq : currentFill = filled "currentColor" := by decide

/-- What is looked for, up to its first quote and behind it. -/
theorem currentFill_eq_append :
    currentFill = "fill=".toList ++ '"' :: ("currentColor".toList ++ ['"']) := by decide

/-- What is looked for begins with a character that it holds nowhere else. -/
theorem exists_currentFill_eq : ∃ ps, currentFill = 'f' :: ps ∧ 'f' ∉ ps :=
  ⟨currentFill.tail, by decide, by decide⟩

theorem recolor_of_ne (h : color ≠ "currentColor") (cs : List Char) :
    recolor color cs = replaceAll currentFill (filled color) cs := by
  unfold filled
  rw [recolor, if_neg h]

theorem recolor_nil (color : String) : recolor color [] = [] := by
  by_cases h : color = "currentColor"
  · rw [recolor, if_pos h]
  · rw [recolor_of_ne h, Text.replaceAll_nil currentFill_ne_nil]

theorem recolor_append_cons (hc : c ∉ currentFill) (x y : List Char) :
    recolor color (x ++ c :: y) = recolor color x ++ c :: recolor color y := by
  by_cases h : color = "currentColor"
  · rw [recolor, recolor, recolor, if_pos h, if_pos h, if_pos h]
  · simp only [recolor_of_ne h, Text.replaceAll_append_cons currentFill_ne_nil hc]

theorem recolor_cons (hc : c ∉ currentFill) (y : List Char) :
    recolor color (c :: y) = c :: recolor color y := by
  have hnil : recolor color ([] ++ c :: y) = recolor color [] ++ c :: recolor color y :=
    recolor_append_cons hc [] y
  rwa [recolor_nil] at hnil

theorem recolor_append_of_head (hy : ∀ c ∈ y.head?, c ∉ currentFill) (x : List Char) :
    recolor color (x ++ y) = recolor color x ++ recolor color y := by
  cases y with
  | nil => rw [recolor_nil, List.append_nil, List.append_nil]
  | cons c y =>
    have hc : c ∉ currentFill := hy c rfl
    rw [recolor_append_cons hc, recolor_cons hc]

theorem recolor_append_of_notMem (hu : ∀ c ∈ u, c ∉ currentFill) (y : List Char) :
    recolor color (u ++ y) = u ++ recolor color y := by
  induction u with
  | nil => rfl
  | cons c u ih =>
    rw [List.cons_append, recolor_cons (hu c List.mem_cons_self),
      ih fun d hd => hu d (List.mem_cons_of_mem c hd)]
    rfl

theorem recolor_of_not_infix (h : ¬ currentFill <:+: cs) : recolor color cs = cs := by
  by_cases hcolor : color = "currentColor"
  · rw [recolor, if_pos hcolor]
  · rw [recolor_of_ne hcolor, Text.replaceAll_of_not_infix currentFill_ne_nil h]

/-- The text ends as it did, or with a quote. -/
theorem getLast?_recolor (hc : c ∈ (recolor color cs).getLast?) : c = '"' ∨ c ∈ cs.getLast? := by
  by_cases hcolor : color = "currentColor"
  · rw [recolor, if_pos hcolor] at hc
    exact .inr hc
  · have hquote : (filled color).getLast? = some '"' := List.getLast?_concat
    have hne : filled color ≠ [] := fun h => by simp [h] at hquote
    rw [recolor_of_ne hcolor] at hc
    rcases Text.getLast?_replaceAll currentFill_ne_nil hne hc with h | h
    · rw [hquote] at h
      exact .inl (Option.some.inj h).symm
    · exact .inr h

/-- A text without the first character of what is looked for stands behind what is written as it
stood behind what was there. -/
theorem prefix_recolor_iff (hu : 'f' ∉ u) : u <+: recolor color cs ↔ u <+: cs := by
  by_cases hcolor : color = "currentColor"
  · rw [recolor, if_pos hcolor]
  · rw [recolor_of_ne hcolor]
    induction cs using Text.replacing_induction currentFill_ne_nil generalizing u with
    | nil => rw [Text.replaceAll_nil currentFill_ne_nil]
    | found cs ih =>
      have hold : currentFill ++ cs = [] ++ 'f' :: (currentFill.tail ++ cs) := rfl
      have hnew : filled color ++ replaceAll currentFill (filled color) cs =
          [] ++ 'f' :: ((filled color).tail ++ replaceAll currentFill (filled color) cs) := rfl
      rw [Text.replaceAll_append currentFill_ne_nil, hold, hnew, Text.prefix_append_cons_iff hu,
        Text.prefix_append_cons_iff hu]
    | kept d cs hd ih =>
      rw [Text.replaceAll_cons currentFill_ne_nil hd]
      cases u with
      | nil => simp
      | cons e u =>
        have hu' : 'f' ∉ u := fun h => hu (List.mem_cons_of_mem e h)
        rw [List.cons_prefix_cons, List.cons_prefix_cons, ih hu']

/-- What fills in a color holds no beginning of what is looked for but perhaps its own. -/
theorem not_infix_filled_append (hcolor : color ≠ "currentColor") (hquote : '"' ∉ color.toList)
    (hequals : '=' ∉ color.toList) (h : ¬ currentFill <:+: cs) :
    ¬ currentFill <:+: filled color ++ cs := by
  -- behind the color a beginning would have to hold the equals sign in front of its first quote
  have hbehind : ∀ u : List Char, u <:+ color.toList → ¬ currentFill <+: u ++ '"' :: cs := by
    intro u hu hstart
    obtain ⟨t, ht⟩ := hstart
    have hsplit : "fill=".toList ++ '"' :: ("currentColor".toList ++ '"' :: t) = u ++ '"' :: cs := by
      rw [← ht]
      rfl
    have hquote' : '"' ∉ u := fun hm => hquote (hu.subset hm)
    obtain ⟨rfl, -⟩ := eq_of_append_cons (by decide) hquote' hsplit
    exact hequals (hu.subset (by decide))
  have hcolored : ∀ u : List Char, u <:+ color.toList → ¬ currentFill <:+: u ++ '"' :: cs := by
    intro u
    induction u with
    | nil =>
      intro hu
      rw [List.nil_append, List.infix_cons_iff, not_or]
      exact ⟨hbehind [] hu, h⟩
    | cons c u ih =>
      intro hu
      rw [List.cons_append, List.infix_cons_iff, not_or]
      exact ⟨hbehind (c :: u) hu, ih ((List.suffix_cons c u).trans hu)⟩
  have hstart : ¬ currentFill <+: filled color ++ cs := by
    rintro ⟨t, ht⟩
    have hold := filled_append "currentColor" t
    rw [← currentFill_eq, ht] at hold
    have hsplit := List.append_cancel_left (hold.symm.trans (filled_append color cs))
    obtain ⟨hsame, -⟩ := eq_of_append_cons (by decide) hquote hsplit
    exact hcolor (String.toList_inj.1 hsame).symm
  have htext : filled color ++ cs = 'f' :: ("ill=\"".toList ++ (color.toList ++ '"' :: cs)) :=
    filled_append color cs
  have hrest : ¬ currentFill <:+: "ill=\"".toList ++ (color.toList ++ '"' :: cs) := by
    obtain ⟨ps, hpiece, -⟩ := exists_currentFill_eq
    have hopening : 'f' ∉ "ill=\"".toList := by decide
    rw [hpiece, Text.infix_append_iff_of_notMem hopening, ← hpiece]
    exact hcolored color.toList List.suffix_rfl
  rw [htext] at hstart ⊢
  rw [List.infix_cons_iff, not_or]
  exact ⟨hstart, hrest⟩

/-- **No current color is left behind**, if the color is another one and can not be a part of what
is looked for. -/
theorem not_infix_recolor (hcolor : color ≠ "currentColor") (hquote : '"' ∉ color.toList)
    (hequals : '=' ∉ color.toList) (cs : List Char) : ¬ currentFill <:+: recolor color cs := by
  have hstep := recolor_of_ne hcolor
  induction cs using Text.replacing_induction currentFill_ne_nil with
  | nil =>
    rw [recolor_nil]
    exact fun h => currentFill_ne_nil (List.infix_nil.1 h)
  | found cs ih =>
    rw [hstep] at ih ⊢
    rw [Text.replaceAll_append currentFill_ne_nil]
    exact not_infix_filled_append hcolor hquote hequals ih
  | kept c cs hc ih =>
    have hcons : recolor color (c :: cs) = c :: recolor color cs := by
      rw [hstep, hstep, Text.replaceAll_cons currentFill_ne_nil hc]
    rw [hcons, List.infix_cons_iff, not_or]
    refine ⟨fun hstart => hc ?_, ih⟩
    obtain ⟨ps, hpiece, hps⟩ := exists_currentFill_eq
    rw [hpiece, List.cons_prefix_cons] at hstart ⊢
    exact ⟨hstart.1, (prefix_recolor_iff hps).1 hstart.2⟩

/-- A color is filled in once. -/
theorem recolor_recolor (hquote : '"' ∉ color.toList) (hequals : '=' ∉ color.toList)
    (cs : List Char) : recolor color (recolor color cs) = recolor color cs := by
  by_cases hcolor : color = "currentColor"
  · rw [recolor, if_pos hcolor]
  · exact recolor_of_not_infix (not_infix_recolor hcolor hquote hequals cs)

/-- A color that is filled in behind a text without quotes. -/
theorem recolor_append_currentFill (hu : '"' ∉ u) :
    recolor color (u ++ currentFill) = u ++ filled color := by
  by_cases hcolor : color = "currentColor"
  · rw [recolor, if_pos hcolor, currentFill_eq, hcolor]
  · rw [recolor_of_ne hcolor]
    induction u with
    | nil =>
      have hstart : replaceAll currentFill (filled color) (currentFill ++ []) =
          filled color ++ replaceAll currentFill (filled color) [] :=
        Text.replaceAll_append currentFill_ne_nil []
      rw [List.append_nil, Text.replaceAll_nil currentFill_ne_nil, List.append_nil] at hstart
      exact hstart
    | cons c u ih =>
      have hu' : '"' ∉ u := fun h => hu (List.mem_cons_of_mem c h)
      -- the first quote of an occurrence would have to be the first one of the text
      have hstart : ¬ currentFill <+: c :: (u ++ currentFill) := by
        rintro ⟨t, ht⟩
        have hsplit : "fill=".toList ++ '"' :: ("currentColor".toList ++ ['"'] ++ t) =
            (c :: (u ++ "fill=".toList)) ++ '"' :: ("currentColor".toList ++ ['"']) := by
          rw [← List.cons_append, ← List.append_assoc, ← currentFill_eq_append, ht, currentFill_eq_append]
          simp only [List.append_assoc, List.cons_append]
        have hfree : '"' ∉ c :: (u ++ "fill=".toList) := by
          rw [← List.cons_append, List.mem_append, not_or]
          exact ⟨hu, by decide⟩
        have hlength := congrArg List.length (eq_of_append_cons (by decide) hfree hsplit).1
        rw [List.length_cons, List.length_append] at hlength
        omega
      rw [List.cons_append, Text.replaceAll_cons currentFill_ne_nil hstart, ih hu']
      rfl

end Text

/-! ### In an attribute -/

namespace Attribute

variable {a : Attribute} {n : List Char} {color : String}

/-- The attribute fills in the current color: its name ends so, it has no blanks around its equals
sign, and its value is the current color. -/
def Fills (a : Attribute) : Prop :=
  "fill".toList <:+ a.name ∧ a.padLeft = [] ∧ a.padRight = [] ∧ a.value = "currentColor".toList

instance (a : Attribute) : Decidable a.Fills := inferInstanceAs (Decidable (_ ∧ _ ∧ _ ∧ _))

/-- The attribute with a color in place of the current color. -/
def recolored (color : String) (h : '"' ∉ color.toList) (a : Attribute) : Attribute :=
  if a.Fills then { a with value := color.toList, quote_notMem_value := h } else a

theorem recolored_of_not_fills (h : '"' ∉ color.toList) (ha : ¬ a.Fills) : a.recolored color h = a :=
  if_neg ha

theorem count_text (a : Attribute) : a.text.count '"' = 2 := by
  have hkey : '"' ∉ a.key := a.notMem_key (by decide) (by decide) (by decide)
  rw [text_eq, List.count_append, List.count_cons_self, List.count_append, List.count_eq_zero.2 hkey,
    List.count_eq_zero.2 a.quote_notMem_value]
  rfl

/-- Blanks behind a character that is none are no blanks at all. -/
theorem eq_nil_of_blanks {p x y : List Char} {c : Char} (hp : ∀ d ∈ p, isBlank d = true)
    (hc : isBlank c = false) (h : x ++ [c] = y ++ p) : p = [] := by
  by_contra hne
  have hlast : (y ++ p).getLast? = some c := by rw [← h, List.getLast?_concat]
  rw [List.getLast?_append_of_ne_nil y hne] at hlast
  have hblank := hp c (List.mem_of_getLast? hlast)
  rw [hc] at hblank
  cases hblank

/-- A word at the end of a text lies behind the blanks that the text begins with. -/
theorem suffix_of_blanks {w x g z : List Char} (hw : ∀ c ∈ w, isBlank c = false)
    (hg : ∀ c ∈ g, isBlank c = true) (h : x ++ w = g ++ z) : w <:+ z := by
  rcases List.append_eq_append_iff.1 h with ⟨u, hgu, hwu⟩ | ⟨u, -, hz⟩
  · have hu : u = [] := by
      refine List.eq_nil_iff_forall_not_mem.2 fun c hc => ?_
      have hblank := hg c (by rw [hgu]; exact List.mem_append_right x hc)
      have hnone := hw c (by rw [hwu]; exact List.mem_append_left z hc)
      rw [hblank] at hnone
      cases hnone
    rw [hwu, hu]
    exact List.suffix_rfl
  · exact ⟨u, hz.symm⟩

/-- What is looked for occurs in an attribute only if the attribute fills in the current color. -/
theorem fills_of_occurs (h : currentFill <:+: a.text) : a.Fills := by
  obtain ⟨x, y, hxy⟩ := h
  have hkey : '"' ∉ a.key := a.notMem_key (by decide) (by decide) (by decide)
  have hx : '"' ∉ x := by
    have hcount := a.count_text
    have hfill : currentFill.count '"' = 2 := by decide
    rw [← hxy, List.count_append, List.count_append, hfill] at hcount
    exact List.count_eq_zero.1 (by omega)
  have hx' : '"' ∉ x ++ "fill=".toList := by
    rw [List.mem_append, not_or]
    exact ⟨hx, by decide⟩
  -- the first quote of what is looked for is the one in front of the value
  have hsplit : (x ++ "fill=".toList) ++ '"' :: ("currentColor".toList ++ '"' :: y) =
      a.key ++ '"' :: (a.value ++ ['"']) := by
    rw [← text_eq, ← hxy, currentFill_eq_append]
    simp only [List.append_assoc, List.cons_append, List.nil_append]
  obtain ⟨hfill, hrest⟩ := eq_of_append_cons hx' hkey hsplit
  obtain ⟨hvalue, -⟩ := eq_of_append_cons (by decide) a.quote_notMem_value hrest
  have hequals : (x ++ "fill".toList) ++ ['='] =
      ((a.gap ++ a.name) ++ a.padLeft ++ ['=']) ++ a.padRight := by
    have hletters : "fill=".toList = "fill".toList ++ ['='] := by decide
    rw [List.append_assoc, ← hletters, hfill, key]
    simp only [List.append_assoc, List.cons_append, List.nil_append]
  have hright : a.padRight = [] := eq_nil_of_blanks a.isBlank_padRight (by decide) hequals
  rw [hright, List.append_nil] at hequals
  have hname : x ++ "fill".toList = (a.gap ++ a.name) ++ a.padLeft := List.append_cancel_right hequals
  have hleft : a.padLeft = [] := by
    have hletters : "fill".toList = "fil".toList ++ ['l'] := by decide
    rw [hletters, ← List.append_assoc] at hname
    exact eq_nil_of_blanks a.isBlank_padLeft (by decide) hname
  rw [hleft, List.append_nil] at hname
  exact ⟨suffix_of_blanks (forall_mem_of_all (by decide)) a.isBlank_gap hname, hleft, hright, hvalue.symm⟩

/-- **A color takes the place of the value** of an attribute, if the attribute fills in the current
color, and else of nothing in it. -/
theorem recolor_text (h : '"' ∉ color.toList) (a : Attribute) :
    recolor color a.text = (a.recolored color h).text := by
  by_cases ha : a.Fills
  · have hfills := ha
    obtain ⟨⟨u, hname⟩, hleft, hright, hvalue⟩ := ha
    have hgap : '"' ∉ a.gap ++ u := by
      intro hin
      refine a.notMem_key (c := '"') (by decide) (by decide) (by decide) ?_
      rw [key, ← hname]
      rcases List.mem_append.1 hin with hin | hin
      · exact List.mem_append_left _ hin
      · exact List.mem_append_right _ (List.mem_append_left _ (List.mem_append_left _ hin))
    have hold : currentFill = "fill".toList ++ '=' :: '"' :: ("currentColor".toList ++ ['"']) := by decide
    have hnew : filled color = "fill".toList ++ '=' :: '"' :: (color.toList ++ ['"']) :=
      calc filled color = filled color ++ [] := (List.append_nil _).symm
        _ = "fill=\"".toList ++ (color.toList ++ ['"']) := filled_append color []
        _ = "fill".toList ++ '=' :: '"' :: (color.toList ++ ['"']) := by
          have hletters : "fill=\"".toList = "fill".toList ++ ['=', '"'] := by decide
          rw [hletters, List.append_assoc]
          rfl
    have htext : a.text = (a.gap ++ u) ++ currentFill := by
      rw [text, hleft, hright, hvalue, ← hname, hold]
      simp only [List.append_assoc, List.nil_append]
    have hrecolored : (a.recolored color h).text = (a.gap ++ u) ++ filled color := by
      rw [recolored, if_pos hfills, text]
      simp only [hleft, hright, ← hname, hnew, List.append_assoc, List.nil_append]
    rw [htext, recolor_append_currentFill hgap, hrecolored]
  · rw [recolored_of_not_fills h ha, recolor_of_not_infix fun hin => ha (fills_of_occurs hin)]

@[simp] theorem name_recolored (h : '"' ∉ color.toList) (a : Attribute) :
    (a.recolored color h).name = a.name := by
  unfold recolored
  split_ifs <;> rfl

theorem tight_recolored (h : '"' ∉ color.toList) : (a.recolored color h).Tight n ↔ a.Tight n := by
  unfold recolored
  split_ifs <;> rfl

theorem bracket_mem_value_recolored (h : '"' ∉ color.toList) (hbracket : '>' ∉ color.toList) :
    '>' ∈ (a.recolored color h).value ↔ '>' ∈ a.value := by
  unfold recolored
  split_ifs with ha
  · have hvalue : '>' ∉ a.value := by
      rw [ha.2.2.2]
      decide
    exact iff_of_false hbracket hvalue
  · rfl

end Attribute

section List

variable {s : Setting} {as : List Attribute} {color : String} {h : '"' ∉ color.toList}

theorem Setting.inPlaceOf_recolored (s : Setting) (a : Attribute) :
    s.inPlaceOf (a.recolored color h) = s.inPlaceOf a := by
  unfold Attribute.recolored
  split_ifs <;> rfl

/-- What is set by another name than one that fills in a color keeps its value. -/
theorem Setting.recolored_behind (hs : ¬ "fill".toList <:+ s.name) (before : List Char)
    (hb : ∀ c ∈ before, isBlank c = true) :
    (s.behind before hb).recolored color h = s.behind before hb :=
  Attribute.recolored_of_not_fills h fun hfills => hs hfills.1

theorem setFirst_map_recolored (hs : ¬ "fill".toList <:+ s.name) :
    setFirst s (as.map (Attribute.recolored color h)) =
      (setFirst s as).map (Attribute.recolored color h) := by
  induction as with
  | nil => rfl
  | cons a as ih =>
    rw [List.map_cons, setFirst, setFirst]
    by_cases htight : a.Tight s.name
    · have hfixed : (s.inPlaceOf a).recolored color h = s.inPlaceOf a := Setting.recolored_behind hs _ _
      rw [if_pos htight, if_pos ((Attribute.tight_recolored h).2 htight), List.map_cons, hfixed,
        Setting.inPlaceOf_recolored]
    · rw [if_neg htight, if_neg fun ht => htight ((Attribute.tight_recolored h).1 ht), List.map_cons, ih]

theorem visible_map_recolored (hbracket : '>' ∉ color.toList) :
    visible (as.map (Attribute.recolored color h)) =
      (visible as).map (Attribute.recolored color h) := by
  induction as with
  | nil => rfl
  | cons a as ih =>
    have hiff := Attribute.bracket_mem_value_recolored (a := a) h hbracket
    rw [List.map_cons]
    by_cases hvalue : '>' ∈ a.value
    · rw [visible_cons_of_mem hvalue, visible_cons_of_mem (hiff.2 hvalue), List.map_nil]
    · rw [visible_cons hvalue, visible_cons fun hm => hvalue (hiff.1 hm), List.map_cons, ih]

theorem notMem_currentFill_of_isBlank {c : Char} (hc : isBlank c = true) : c ∉ currentFill := by
  intro hmem
  have hnone : ∀ d ∈ currentFill, isBlank d = false := forall_mem_of_all (by decide)
  rw [hnone c hmem] at hc
  cases hc

end List

/-! ### In markup -/

namespace Markup

variable {m : Markup} {s : Setting} {n : List Char} {color : String} {h : '"' ∉ color.toList}

/-- Markup with a color in place of the current color. -/
def recolored (color : String) (h : '"' ∉ color.toList) (m : Markup) : Markup :=
  { m with attributes := m.attributes.map (Attribute.recolored color h), rest := recolor color m.rest }

theorem recolor_ending (h : '"' ∉ color.toList) (m : Markup) :
    recolor color m.ending = (m.recolored color h).ending := by
  obtain ⟨u, hclose, hu⟩ := m.exists_close_eq
  have hkept : ∀ c ∈ u ++ ['>'], c ∉ currentFill := by
    intro c hc
    rcases List.mem_append.1 hc with hc | hc
    · rcases hu c hc with hblank | rfl
      · exact notMem_currentFill_of_isBlank hblank
      · decide
    · rw [List.mem_singleton.1 hc]
      decide
  have hsame : (m.recolored color h).close = m.close := rfl
  rw [ending, ending, hsame, hclose, recolor_append_of_notMem hkept]
  rfl

/-- What stands behind an attribute begins with nothing that is looked for. -/
theorem notMem_currentFill_head (m : Markup) (as : List Attribute) :
    ∀ c ∈ (attributesText as ++ m.ending).head?, c ∉ currentFill := by
  intro c hc
  cases as with
  | cons a as =>
    obtain ⟨d, r, htext, hblank⟩ := a.exists_text_eq_cons
    rw [attributesText_cons, htext] at hc
    obtain rfl := Option.some.inj hc
    exact notMem_currentFill_of_isBlank hblank
  | nil =>
    obtain ⟨u, hclose, hu⟩ := m.exists_close_eq
    rw [attributesText_nil, List.nil_append, ending, hclose] at hc
    cases u with
    | nil =>
      obtain rfl := Option.some.inj hc
      decide
    | cons d u =>
      obtain rfl := Option.some.inj hc
      rcases hu d List.mem_cons_self with hblank | rfl
      · exact notMem_currentFill_of_isBlank hblank
      · decide

theorem recolor_attributesText (h : '"' ∉ color.toList) (m : Markup) :
    ∀ as : List Attribute, recolor color (attributesText as ++ m.ending) =
      attributesText (as.map (Attribute.recolored color h)) ++ (m.recolored color h).ending
  | [] => m.recolor_ending h
  | a :: as => by
    rw [attributesText_cons, List.append_assoc,
      recolor_append_of_head (m.notMem_currentFill_head as), Attribute.recolor_text h,
      recolor_attributesText h m as, List.map_cons, attributesText_cons, List.append_assoc]

/-- **A color is filled in** in every part of markup. -/
theorem recolor_text (h : '"' ∉ color.toList) (hfront : ¬ currentFill <:+: leadsText m.front) :
    recolor color m.text = (m.recolored color h).text := by
  have hroot : ∀ c ∈ rootTag, c ∉ currentFill := forall_mem_of_all (by decide)
  have hhead : ∀ c ∈ (rootTag ++ (attributesText m.attributes ++ m.ending)).head?, c ∉ currentFill := by
    intro c hc
    obtain rfl := Option.some.inj hc
    decide
  rw [text, recolor_append_of_head hhead, recolor_append_of_notMem hroot, recolor_of_not_infix hfront,
    m.recolor_attributesText h]
  rfl

theorem reaches_recolored (hbracket : '>' ∉ color.toList) :
    (m.recolored color h).Reaches n ↔ m.Reaches n := by
  refine and_congr_right fun _ => ?_
  rw [recolored, visible_map_recolored hbracket]
  simp [Attribute.tight_recolored]

/-- Setting an attribute and filling in a color do not see one another. -/
theorem set_recolored (hbracket : '>' ∉ color.toList) (hs : ¬ "fill".toList <:+ s.name) :
    (m.recolored color h).set s = (m.set s).recolored color h := by
  have hreach := reaches_recolored (m := m) (h := h) (n := s.name) hbracket
  by_cases hm : m.Reaches s.name
  · rw [set_of_reaches hm, set_of_reaches (hreach.2 hm), recolored, setFirst_map_recolored hs]
    rfl
  · have hfirst : s.first.recolored color h = s.first := Setting.recolored_behind hs _ _
    rw [set_of_not_reaches hm, set_of_not_reaches fun hr => hm (hreach.1 hr), recolored, recolored,
      List.map_cons, hfirst]

theorem valuesOf_recolored (hn : ¬ "fill".toList <:+ n) :
    (m.recolored color h).valuesOf n = m.valuesOf n := by
  have hkept : ∀ a ∈ m.attributes.filter (fun a => a.name = n), (a.recolored color h).value = a.value := by
    intro a ha
    have hname : a.name = n := of_decide_eq_true (List.mem_filter.1 ha).2
    rw [Attribute.recolored_of_not_fills h fun hfills => hn (hname ▸ hfills.1)]
  have hfilter : (m.attributes.map (Attribute.recolored color h)).filter (fun a => a.name = n) =
      (m.attributes.filter fun a => a.name = n).map (Attribute.recolored color h) := by
    rw [List.filter_map]
    simp only [Function.comp_def, Attribute.name_recolored]
  rw [valuesOf, Svg.valuesOf, recolored, hfilter, List.map_map]
  exact List.map_congr_left hkept

end Markup

end SlidePress.Svg
