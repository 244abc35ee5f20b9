import SlidePress.Proofs.Icon.Recolor

/-! # Dressing an icon

An icon is dressed by three settings, of its class, its width and its height, and a color. What
comes of it is read off the parts of its markup (`Markup.dressed`): which of the settings are the only
attributes of their names (`exists_dress_valuesOf`), that nothing but them and the color is touched,
and that dressing an icon again changes nothing (`exists_dress_dress`). -/

namespace SlidePress.Svg

open Text (isBlank stripChars)

/-! ### What is stripped -/

section Strip

variable {cs : List Char}

theorem stripChars_eq_self (hhead : ∀ c ∈ cs.head?, isBlank c = false)
    (hlast : ∀ c ∈ cs.getLast?, isBlank c = false) : stripChars cs = cs := by
  have hdrop : ∀ {ds : List Char}, (∀ c ∈ ds.head?, isBlank c = false) → ds.dropWhile isBlank = ds := by
    intro ds hds
    cases ds with
    | nil => rfl
    | cons d ds => rw [List.dropWhile_cons_of_neg (by simp [hds d rfl])]
  rw [stripChars, Text.stripBy, Text.stripLeftBy, Text.stripRightBy, hdrop hhead,
    hdrop (by rwa [List.head?_reverse]), List.reverse_reverse]

theorem isBlank_getLast?_stripChars : ∀ c ∈ (stripChars cs).getLast?, isBlank c = false := by
  intro c hc
  rw [stripChars, Text.stripBy, Text.stripRightBy, List.getLast?_reverse] at hc
  have hnot := List.head?_dropWhile_not isBlank (Text.stripLeftBy isBlank cs).reverse
  rw [hc] at hnot
  exact hnot

end Strip

/-! ### Class, size and color -/

/-- How an icon is to look. What ends a value is in none of it. -/
structure Look where
  className : String
  size : String
  color : String
  quote_notMem_className : '"' ∉ className.toList
  quote_notMem_size : '"' ∉ size.toList
  quote_notMem_color : '"' ∉ color.toList

/-- The names of the attributes that are set. -/
def slots : List (List Char) := ["class".toList, "width".toList, "height".toList]

/-- The attributes that are set: the size is the width and the height. -/
def Look.settings (l : Look) : List Setting :=
  [⟨"class".toList, l.className.toList, by decide, l.quote_notMem_className⟩,
    ⟨"width".toList, l.size.toList, by decide, l.quote_notMem_size⟩,
    ⟨"height".toList, l.size.toList, by decide, l.quote_notMem_size⟩]

/-- Markup as it is dressed. -/
def Markup.dressed (l : Look) (m : Markup) : Markup :=
  (m.setAll l.settings).recolored l.color l.quote_notMem_color

section Dress

variable {svg : String} {l : Look} {m : Markup} {s : Setting}

theorem Look.map_name_settings (l : Look) : l.settings.map Setting.name = slots := rfl

theorem Look.nodup_settings (l : Look) : (l.settings.map Setting.name).Nodup := by
  rw [l.map_name_settings]
  decide

theorem Look.name_mem_slots (hs : s ∈ l.settings) : s.name ∈ slots := by
  rw [← l.map_name_settings]
  exact List.mem_map_of_mem hs

/-- What holds of class and size holds of every setting. -/
theorem Look.forall_settings {P : List Char → Prop} (hclass : P l.className.toList)
    (hsize : P l.size.toList) : ∀ s ∈ l.settings, P s.value := by
  intro s hs
  simp only [settings, List.mem_cons, List.not_mem_nil, or_false] at hs
  rcases hs with rfl | rfl | rfl
  · exact hclass
  · exact hsize
  · exact hsize

theorem not_fill_suffix_of_mem_slots {n : List Char} (hn : n ∈ slots) : ¬ "fill".toList <:+ n := by
  have hall : ∀ n ∈ slots, ¬ "fill".toList <:+ n := by decide
  exact hall n hn

theorem Look.backslash_notMem_written (hs : s ∈ l.settings) (hvalue : '\\' ∉ s.value) :
    '\\' ∉ written s.name s.value := by
  have hall : ∀ n ∈ slots, '\\' ∉ n := by decide
  have hname : '\\' ∉ s.name := hall _ (Look.name_mem_slots hs)
  simp [written, hname, hvalue]

theorem dress_eq_foldlM (svg : String) (l : Look) : dress svg l.className l.size l.color = do
    let cs ← l.settings.foldlM (fun cs s => setAttribute s.name s.value cs) (stripChars svg.toList)
    return String.ofList (recolor l.color cs) := by
  simp only [dress, Look.settings, List.foldlM_cons, List.foldlM_nil, bind_assoc, pure_bind]

theorem Markup.text_dressed (l : Look) (hfill : ¬ currentFill <:+: leadsText m.front) :
    (m.dressed l).text = recolor l.color (m.setAll l.settings).text := by
  have hfront : (m.setAll l.settings).front = m.front :=
    setAll_induction (P := fun m' => m'.front = m.front) rfl fun _ _ _ h => h
  rw [← hfront] at hfill
  exact (recolor_text l.quote_notMem_color hfill).symm

/-- **A text is dressed by its parts.** -/
theorem dress_eq (hsvg : stripChars svg.toList = m.text) (hplain : m.Plain slots)
    (hfill : ¬ currentFill <:+: leadsText m.front) (hbracket : ∀ s ∈ l.settings, '>' ∉ s.value)
    (hlure : ∀ s ∈ l.settings, ∀ n ∈ slots, ¬ Lures n s.value)
    (hinert : ∀ s ∈ l.settings, m.Reaches s.name → '\\' ∉ s.value) :
    dress svg l.className l.size l.color = .ok (String.ofList (m.dressed l).text) := by
  have hset : l.settings.foldlM (fun cs s => setAttribute s.name s.value cs) m.text =
      .ok (m.setAll l.settings).text :=
    Markup.foldlM_setAttribute_text hbracket l.nodup_settings hplain
      (fun s hs => Look.name_mem_slots hs) hlure
      fun s hs hreach => Look.backslash_notMem_written hs (hinert s hs hreach)
  rw [dress_eq_foldlM, hsvg, hset, Markup.text_dressed l hfill]
  rfl

/-- **Class, width and height of an icon.** The text of an icon is the text of markup in one way, and
in that markup a setting is the only attribute of its name, with the value that was given, exactly if
the icon had no such attribute or has one that is found. -/
theorem exists_dress_valuesOf (hsvg : stripChars svg.toList = m.text)
    (hnodup : (m.attributes.map Attribute.name).Nodup) (hplain : m.Plain slots)
    (hfill : ¬ currentFill <:+: leadsText m.front) (hbracket : ∀ s ∈ l.settings, '>' ∉ s.value)
    (hlure : ∀ s ∈ l.settings, ∀ n ∈ slots, ¬ Lures n s.value)
    (hinert : ∀ s ∈ l.settings, m.Reaches s.name → '\\' ∉ s.value) :
    ∃ m' : Markup, dress svg l.className l.size l.color = .ok (String.ofList m'.text) ∧
      (∀ m'' : Markup, m''.text = m'.text → m'' = m') ∧
      ∀ s ∈ l.settings, m'.valuesOf s.name = [s.value] ↔ m.valuesOf s.name = [] ∨ m.Reaches s.name := by
  refine ⟨m.dressed l, dress_eq hsvg hplain hfill hbracket hlure hinert,
    fun m'' h => Markup.text_injective h, fun s hs => ?_⟩
  have hone : (m.valuesOf s.name).length ≤ 1 := Markup.length_valuesOf_le_one hnodup s.name
  have hvalues := Markup.valuesOf_setAll hbracket l.nodup_settings hs hone
  rw [Markup.dressed, Markup.valuesOf_recolored (not_fill_suffix_of_mem_slots (Look.name_mem_slots hs)),
    hvalues]
  by_cases hreach : m.Reaches s.name
  · rw [if_pos hreach]
    exact iff_of_true rfl (.inr hreach)
  · rw [if_neg hreach, List.cons.injEq]
    simp [hreach]

/-- An icon with class, width and height, and what its file begins with. -/
def ring (front : List Lead) : Markup :=
  ⟨front, [Setting.first ⟨"class".toList, "old".toList, by decide, by decide⟩,
    Setting.first ⟨"width".toList, "10".toList, by decide, by decide⟩,
    Setting.first ⟨"height".toList, "10".toList, by decide, by decide⟩], [], false, "</svg>".toList,
    isBlank_of_mem_nil⟩

/-- A declaration. -/
def declaration : Lead :=
  ⟨.instruction, "xml version=\"1.0\"".toList, [], by decide, isBlank_of_mem_nil⟩

/-- How it is to look. -/
def ringLook : Look := ⟨"c", "16px", "red", by decide +kernel, by decide +kernel, by decide +kernel⟩

theorem exists_dress_valuesOf_ring :
    (∃ m' : Markup, dress "<svg class=\"old\" width=\"10\" height=\"10\"></svg>" "c" "16px" "red" =
        .ok (String.ofList m'.text) ∧
      ∀ s ∈ ringLook.settings, m'.valuesOf s.name = [s.value]) ∧
    ∃ m' : Markup, dress "<?xml version=\"1.0\"?><svg class=\"old\" width=\"10\" height=\"10\"></svg>"
        "c" "16px" "red" = .ok (String.ofList m'.text) ∧
      ∀ s ∈ ringLook.settings, m'.valuesOf s.name ≠ [s.value] := by
  have hplain : ∀ front ∈ [[], [declaration]], (ring front).Plain slots := by
    intro front hfront
    have hroot : ∀ front ∈ [[], [declaration]], ¬ rootTag <:+: leadsText front := by decide +kernel
    have hhandle : ∀ front ∈ [[], [declaration]], ∀ n ∈ slots, ¬ handle n <:+: leadsText front := by
      decide +kernel
    have hvalues : ∀ front ∈ [[], [declaration]], ∀ a ∈ (ring front).attributes, '=' ∉ a.value := by
      decide +kernel
    exact ⟨hroot front hfront, hhandle front hfront,
      fun n _ a ha => not_lures_of_equals_notMem (hvalues front hfront a ha)⟩
  have hlure : ∀ s ∈ ringLook.settings, ∀ n ∈ slots, ¬ Lures n s.value := by
    have hvalues : ∀ s ∈ ringLook.settings, '=' ∉ s.value := by decide +kernel
    exact fun s hs n _ => not_lures_of_equals_notMem (hvalues s hs)
  have hinert : ∀ s ∈ ringLook.settings, '\\' ∉ s.value := by decide +kernel
  have hbare : stripChars "<svg class=\"old\" width=\"10\" height=\"10\"></svg>".toList = (ring []).text := by
    decide +kernel
  have hdeclared :
      stripChars "<?xml version=\"1.0\"?><svg class=\"old\" width=\"10\" height=\"10\"></svg>".toList =
        (ring [declaration]).text := by
    decide +kernel
  obtain ⟨bare, hdress, -, hset⟩ := exists_dress_valuesOf (l := ringLook) hbare (by decide +kernel)
    (hplain [] (by simp)) (by decide +kernel) (by decide +kernel) hlure fun s hs _ => hinert s hs
  obtain ⟨declared, hdress', -, hset'⟩ := exists_dress_valuesOf (l := ringLook) hdeclared
    (by decide +kernel) (hplain [declaration] (by simp)) (by decide +kernel) (by decide +kernel) hlure
    fun s hs _ => hinert s hs
  have hfound : ∀ s ∈ ringLook.settings, (ring []).Reaches s.name := by decide +kernel
  have hlost : ∀ s ∈ ringLook.settings,
      ¬ ((ring [declaration]).valuesOf s.name = [] ∨ (ring [declaration]).Reaches s.name) := by
    decide +kernel
  exact ⟨⟨bare, hdress, fun s hs => (hset s hs).2 (.inr (hfound s hs))⟩,
    declared, hdress', fun s hs h => hlost s hs ((hset' s hs).1 h)⟩

/-! ### What is kept -/

/-- The attributes that are not set. -/
def Markup.others (m : Markup) : List Attribute := m.attributes.filter fun a => a.name ∉ slots

theorem Markup.others_dressed (l : Look) (m : Markup) :
    (m.dressed l).others = m.others.map (Attribute.recolored l.color l.quote_notMem_color) := by
  have hset : (m.setAll l.settings).others = m.others := by
    refine setAll_induction (P := fun m' => m'.others = m.others) rfl fun s hs m' hm' => ?_
    have hslot : ∀ b : Attribute, b.name = s.name → decide (b.name ∉ slots) = false := by
      intro b hb
      exact decide_eq_false fun hnot => hnot (hb ▸ Look.name_mem_slots hs)
    rw [← hm']
    exact filter_set hslot
  rw [dressed, recolored, others, List.filter_map, ← hset, others]
  simp only [Function.comp_def, Attribute.name_recolored]

theorem Markup.dressed_frame (l : Look) (m : Markup) :
    (m.dressed l).front = m.front ∧ (m.dressed l).close = m.close ∧
      (m.dressed l).rest = recolor l.color m.rest := by
  obtain ⟨hfront, hclose, hrest⟩ : (m.setAll l.settings).front = m.front ∧
      (m.setAll l.settings).close = m.close ∧ (m.setAll l.settings).rest = m.rest :=
    setAll_induction (P := fun m' => m'.front = m.front ∧ m'.close = m.close ∧ m'.rest = m.rest)
      ⟨rfl, rfl, rfl⟩ fun _ _ _ h => h
  refine ⟨hfront, hclose, ?_⟩
  rw [← hrest]
  rfl

/-- **A setting is not undone** by what comes after it. -/
theorem Markup.set_dressed (hfront : m.front = []) (hbracket : ∀ s ∈ l.settings, '>' ∉ s.value)
    (hcolor : '>' ∉ l.color.toList) (hs : s ∈ l.settings) : (m.dressed l).set s = m.dressed l := by
  have hfill := not_fill_suffix_of_mem_slots (Look.name_mem_slots hs)
  rw [dressed, set_recolored hcolor hfill, set_setAll hbracket l.nodup_settings hfront hs]

theorem Markup.equals_notMem_dressed (hvalues : ∀ a ∈ m.attributes, '=' ∉ a.value)
    (hsettings : ∀ s ∈ l.settings, '=' ∉ s.value) (hcolor : '=' ∉ l.color.toList) :
    ∀ a ∈ (m.dressed l).attributes, '=' ∉ a.value := by
  have hset : ∀ a ∈ (m.setAll l.settings).attributes, '=' ∉ a.value := by
    refine setAll_induction (P := fun m' => ∀ a ∈ m'.attributes, '=' ∉ a.value) hvalues ?_
    intro s hs m' hm' a ha
    rcases mem_attributes_set ha with ha | ha
    · exact hm' a ha
    · rw [ha]
      exact hsettings s hs
  intro a ha
  obtain ⟨b, hb, rfl⟩ := List.mem_map.1 ha
  unfold Attribute.recolored
  split_ifs
  · exact hcolor
  · exact hset b hb

/-- The text of markup ends as what follows its root tag. -/
theorem Markup.getLast?_text (m : Markup) : m.text.getLast? = ('>' :: m.rest).getLast? := by
  obtain ⟨u, hclose, -⟩ := m.exists_close_eq
  have htext : m.text =
      (leadsText m.front ++ rootTag ++ attributesText m.attributes ++ u) ++ '>' :: m.rest := by
    rw [text, ending, hclose]
    simp only [List.append_assoc, List.cons_append, List.nil_append]
  rw [htext, List.getLast?_append_of_ne_nil _ (List.cons_ne_nil _ _)]

/-- Markup that was stripped and dressed has nothing to strip. -/
theorem Markup.stripChars_dressed (hsvg : stripChars svg.toList = m.text) (hfront : m.front = []) :
    stripChars (m.dressed l).text = (m.dressed l).text := by
  obtain ⟨hfront', -, hrest⟩ := m.dressed_frame l
  refine stripChars_eq_self ?_ ?_
  · intro c hc
    rw [text_of_front_nil (hfront'.trans hfront)] at hc
    obtain rfl := Option.some.inj hc
    decide
  · intro c hc
    have hbracket : '>' ∉ currentFill := by decide
    rw [getLast?_text, hrest, ← recolor_cons hbracket] at hc
    rcases getLast?_recolor hc with rfl | hc
    · decide
    · rw [← getLast?_text, ← hsvg] at hc
      exact isBlank_getLast?_stripChars c hc

theorem Markup.plain_of_front_nil {names : List (List Char)} (hfront : m.front = [])
    (hvalues : ∀ a ∈ m.attributes, '=' ∉ a.value) : m.Plain names where
  no_rootTag := by
    rw [hfront]
    decide
  no_handle := by
    intro n _ hin
    rw [hfront, leadsText_nil, List.infix_nil] at hin
    simp [handle] at hin
  no_lure := fun n _ a ha => not_lures_of_equals_notMem (hvalues a ha)

theorem not_infix_of_front_nil (hfront : m.front = []) : ¬ currentFill <:+: leadsText m.front := by
  rw [hfront]
  decide

/-- Of an icon with nothing in front of its root tag and a look without marks nothing else is asked
than values without equals signs. -/
theorem dress_eq_of_front_nil (hsvg : stripChars svg.toList = m.text) (hfront : m.front = [])
    (hvalues : ∀ a ∈ m.attributes, '=' ∉ a.value)
    (hsettings : ∀ s ∈ l.settings, '>' ∉ s.value ∧ '=' ∉ s.value ∧ '\\' ∉ s.value) :
    dress svg l.className l.size l.color = .ok (String.ofList (m.dressed l).text) :=
  dress_eq hsvg (Markup.plain_of_front_nil hfront hvalues) (not_infix_of_front_nil hfront)
    (fun s hs => (hsettings s hs).1) (fun s hs _ _ => not_lures_of_equals_notMem (hsettings s hs).2.1)
    fun s hs _ => (hsettings s hs).2.2

/-- **What is not set is kept.** Of an icon with nothing in front of its root tag every other attribute
and everything behind the tag keeps its text and its place, but for the color in place of the current
color; what is set is there; and the dressed icon is not changed by being dressed in the same way
again. -/
theorem exists_dress_dress (hsvg : stripChars svg.toList = m.text) (hfront : m.front = [])
    (hvalues : ∀ a ∈ m.attributes, '=' ∉ a.value)
    (hlook : ∀ v ∈ [l.className, l.size, l.color], '>' ∉ v.toList ∧ '=' ∉ v.toList ∧ '\\' ∉ v.toList) :
    ∃ m' : Markup, dress svg l.className l.size l.color = .ok (String.ofList m'.text) ∧
      (∀ m'' : Markup, m''.text = m'.text → m'' = m') ∧
      (∀ s ∈ l.settings, s.value ∈ m'.valuesOf s.name) ∧
      m'.front = [] ∧ m'.close = m.close ∧
      m'.others = m.others.map (Attribute.recolored l.color l.quote_notMem_color) ∧
      m'.rest = recolor l.color m.rest ∧
      (l.color ≠ "currentColor" → ¬ currentFill <:+: m'.text) ∧
      dress (String.ofList m'.text) l.className l.size l.color = .ok (String.ofList m'.text) := by
  obtain ⟨hcolor, hequals, -⟩ := hlook l.color (by simp)
  have hsettings : ∀ s ∈ l.settings, '>' ∉ s.value ∧ '=' ∉ s.value ∧ '\\' ∉ s.value :=
    Look.forall_settings (P := fun v => '>' ∉ v ∧ '=' ∉ v ∧ '\\' ∉ v) (hlook l.className (by simp))
      (hlook l.size (by simp))
  obtain ⟨hfront', hclose, hrest⟩ := m.dressed_frame l
  rw [hfront] at hfront'
  have htext := Markup.text_dressed l (not_infix_of_front_nil hfront)
  have hmade : ∀ s ∈ l.settings, (m.dressed l).set s = m.dressed l := fun s hs =>
    Markup.set_dressed hfront (fun t ht => (hsettings t ht).1) hcolor hs
  have hset : (m.dressed l).setAll l.settings = m.dressed l := Markup.setAll_of_forall_set hmade
  have htwice : ((m.dressed l).dressed l).text = (m.dressed l).text := by
    rw [Markup.text_dressed l (not_infix_of_front_nil hfront'), hset, htext,
      recolor_recolor l.quote_notMem_color hequals]
  refine ⟨m.dressed l, dress_eq_of_front_nil hsvg hfront hvalues hsettings,
    fun m'' h => Markup.text_injective h, ?_, hfront', hclose, m.others_dressed l, hrest, ?_, ?_⟩
  · intro s hs
    have hthere := (m.dressed l).mem_valuesOf_set s
    rwa [hmade s hs] at hthere
  · intro hne
    rw [htext]
    exact not_infix_recolor hne l.quote_notMem_color hequals _
  · have hstripped : stripChars (String.ofList (m.dressed l).text).toList = (m.dressed l).text := by
      rw [String.toList_ofList]
      exact Markup.stripChars_dressed hsvg hfront
    have hvalues' : ∀ a ∈ (m.dressed l).attributes, '=' ∉ a.value :=
      Markup.equals_notMem_dressed hvalues (fun s hs => (hsettings s hs).2.1) hequals
    rw [dress_eq_of_front_nil hstripped hfront' hvalues' hsettings, htwice]

/-- An icon whose color is not its own, with a class and an identifier. -/
def drop : Markup :=
  ⟨[], [Setting.first ⟨"fill".toList, "currentColor".toList, by decide, by decide⟩,
    Setting.first ⟨"class".toList, "old".toList, by decide, by decide⟩,
    Setting.first ⟨"id".toList, "a".toList, by decide, by decide⟩], [], true, [],
    isBlank_of_mem_nil⟩

/-- How it is to look. -/
def dropLook : Look := ⟨"c", "9px", "red", by decide +kernel, by decide +kernel, by decide +kernel⟩

theorem exists_dress_dress_drop :
    ∃ m' : Markup, dress "<svg fill=\"currentColor\" class=\"old\" id=\"a\"/>" "c" "9px" "red" =
        .ok (String.ofList m'.text) ∧
      m'.others.map Attribute.text = [" fill=\"red\"".toList, " id=\"a\"".toList] ∧
      dress (String.ofList m'.text) "c" "9px" "red" = .ok (String.ofList m'.text) := by
  have hstripped : stripChars
      "<svg fill=\"currentColor\" class=\"old\" id=\"a\"/>".toList = drop.text := by
    decide +kernel
  have hvalues : ∀ a ∈ drop.attributes, '=' ∉ a.value := by decide +kernel
  obtain ⟨m', hdress, -, -, -, -, hothers, -, -, htwice⟩ :=
    exists_dress_dress (l := dropLook) hstripped rfl hvalues (by decide +kernel)
  have htexts := congrArg (List.map Attribute.text) hothers
  exact ⟨m', hdress, htexts.trans (by decide +kernel), htwice⟩

end Dress

end SlidePress.Svg
