import Mathlib.Data.List.Nodup
import SlidePress.Proofs.Icon.Setting

/-! # Setting several attributes

Attributes are set one after the other, each in the markup that the ones before have left. What one
setting does to the others is little: it keeps every attribute of another name (`filter_set`), it
keeps what can be found of them (`reaches_set`), and two settings in place of attributes do not see
one another (`setFirst_comm`). So of each setting the same becomes as if it were the only one
(`valuesOf_setAll`), and what has been set is not changed by being set again (`set_setAll`). -/

namespace SlidePress.Svg

/-! ### A setting in a list of attributes -/

section List

variable {s t : Setting} {a : Attribute} {as : List Attribute} {n : List Char}

/-- The values of the attributes with a name. -/
def valuesOf (as : List Attribute) (n : List Char) : List (List Char) :=
  (as.filter fun a => a.name = n).map Attribute.value

theorem Setting.tight_inPlaceOf (s : Setting) (a : Attribute) (n : List Char) :
    (s.inPlaceOf a).Tight n ↔ s.name = n :=
  Setting.tight_behind _ _

theorem Setting.inPlaceOf_inPlaceOf (s : Setting) (a : Attribute) :
    s.inPlaceOf (s.inPlaceOf a) = s.inPlaceOf a := by
  simp [inPlaceOf, behind]

theorem Setting.inPlaceOf_first (s : Setting) : s.inPlaceOf s.first = s.first := rfl

/-- A setting in place of an attribute is the only thing that changes. -/
theorem mem_setFirst : a ∈ setFirst s as → a ∈ as ∨ a.value = s.value := by
  induction as with
  | nil => exact fun h => .inl h
  | cons b as ih =>
    rw [setFirst]
    split_ifs
    · intro h
      rcases List.mem_cons.1 h with rfl | h
      · exact .inr rfl
      · exact .inl (List.mem_cons_of_mem b h)
    · intro h
      rcases List.mem_cons.1 h with rfl | h
      · exact .inl List.mem_cons_self
      · exact (ih h).imp_left (List.mem_cons_of_mem b)

theorem exists_mem_setFirst (h : ∃ a ∈ as, a.Tight s.name) :
    ∃ a ∈ setFirst s as, a.name = s.name ∧ a.value = s.value := by
  induction as with
  | nil => simp at h
  | cons b as ih =>
    rw [setFirst]
    split_ifs with htight
    · exact ⟨s.inPlaceOf b, List.mem_cons_self, rfl, rfl⟩
    · have hrest : ∃ a ∈ as, a.Tight s.name := by simpa [htight] using h
      obtain ⟨a, ha, hset⟩ := ih hrest
      exact ⟨a, List.mem_cons_of_mem b ha, hset⟩

/-- Attributes of other names stay as they are, in their order. -/
theorem filter_setFirst {p : Attribute → Bool} (hp : ∀ b, b.name = s.name → p b = false) :
    (setFirst s as).filter p = as.filter p := by
  induction as with
  | nil => rfl
  | cons b as ih =>
    rw [setFirst]
    split_ifs with htight
    · have hold : p b = false := hp b htight.1
      have hnew : p (s.inPlaceOf b) = false := hp _ rfl
      rw [List.filter_cons_of_neg (by simp [hnew]), List.filter_cons_of_neg (by simp [hold])]
    · rw [List.filter_cons, List.filter_cons, ih]

/-- Where an attribute is found that is there once, it has the new value alone. -/
theorem valuesOf_setFirst (h : ∃ a ∈ as, a.Tight s.name) (hone : (valuesOf as s.name).length ≤ 1) :
    valuesOf (setFirst s as) s.name = [s.value] := by
  induction as with
  | nil => simp at h
  | cons b as ih =>
    rw [setFirst]
    by_cases htight : b.Tight s.name
    · have hrest : as.filter (fun a => a.name = s.name) = [] := by
        have hlength : (valuesOf (b :: as) s.name).length =
            (as.filter fun a => a.name = s.name).length + 1 := by simp [valuesOf, htight.1]
        exact List.eq_nil_of_length_eq_zero (by omega)
      have hname : (s.inPlaceOf b).name = s.name := rfl
      rw [if_pos htight, valuesOf, List.filter_cons_of_pos (by simp [hname]), hrest]
      rfl
    · have hfound : ∃ a ∈ as, a.Tight s.name := by simpa [htight] using h
      obtain ⟨c, hc, hctight⟩ := hfound
      have hpos : 0 < (as.filter fun a => a.name = s.name).length :=
        List.length_pos_of_mem (List.mem_filter.2 ⟨hc, by simp [hctight.1]⟩)
      have hname : b.name ≠ s.name := by
        intro hname
        have hlength : (valuesOf (b :: as) s.name).length =
            (as.filter fun a => a.name = s.name).length + 1 := by simp [valuesOf, hname]
        omega
      have hskip (bs : List Attribute) : valuesOf (b :: bs) s.name = valuesOf bs s.name := by
        simp [valuesOf, hname]
      rw [if_neg htight, hskip]
      exact ih ⟨c, hc, hctight⟩ (by rwa [hskip] at hone)

theorem setFirst_setFirst : setFirst s (setFirst s as) = setFirst s as := by
  induction as with
  | nil => rfl
  | cons b as ih =>
    by_cases htight : b.Tight s.name
    · have hnew : (s.inPlaceOf b).Tight s.name := (s.tight_inPlaceOf b _).2 rfl
      rw [setFirst, if_pos htight, setFirst, if_pos hnew, s.inPlaceOf_inPlaceOf]
    · rw [setFirst, if_neg htight, setFirst, if_neg htight, ih]

/-- Settings of two names do not see one another. -/
theorem setFirst_comm (hname : s.name ≠ t.name) :
    setFirst s (setFirst t as) = setFirst t (setFirst s as) := by
  induction as with
  | nil => rfl
  | cons b as ih =>
    have hs : ¬ (s.inPlaceOf b).Tight t.name := fun h => hname ((s.tight_inPlaceOf b _).1 h)
    have ht : ¬ (t.inPlaceOf b).Tight s.name := fun h => hname ((t.tight_inPlaceOf b _).1 h).symm
    by_cases hbs : b.Tight s.name
    · have hbt : ¬ b.Tight t.name := fun h => hname (hbs.1.symm.trans h.1)
      simp only [setFirst, if_pos hbs, if_neg hbt, if_neg hs]
    · by_cases hbt : b.Tight t.name
      · simp only [setFirst, if_neg hbs, if_pos hbt, if_neg ht]
      · simp only [setFirst, if_neg hbs, if_neg hbt, ih]

theorem visible_cons (h : '>' ∉ a.value) : visible (a :: as) = a :: visible as := by
  rw [visible, List.takeWhile_cons_of_pos (by simpa using h), visible]

theorem visible_cons_of_mem (h : '>' ∈ a.value) : visible (a :: as) = [] := by
  rw [visible, List.takeWhile_cons_of_neg (by simpa using h)]

/-- What can be found of another name can still be found, and nothing else. -/
theorem exists_visible_setFirst (hs : '>' ∉ s.value) (hn : n ≠ s.name)
    (h : ∃ a ∈ visible as, a.Tight s.name) :
    (∃ a ∈ visible (setFirst s as), a.Tight n) ↔ ∃ a ∈ visible as, a.Tight n := by
  induction as with
  | nil => rfl
  | cons b as ih =>
    by_cases hvalue : '>' ∈ b.value
    · simp [visible_cons_of_mem hvalue] at h
    · rw [setFirst, visible_cons hvalue]
      rw [visible_cons hvalue] at h
      by_cases htight : b.Tight s.name
      · have hold : ¬ b.Tight n := fun hb => hn (hb.1.symm.trans htight.1)
        have hnew : ¬ (s.inPlaceOf b).Tight n := fun hb => hn ((s.tight_inPlaceOf b n).1 hb).symm
        have hfree : '>' ∉ (s.inPlaceOf b).value := hs
        rw [if_pos htight, visible_cons hfree]
        simp [hold, hnew]
      · have hrest : ∃ a ∈ visible as, a.Tight s.name := by simpa [htight] using h
        rw [if_neg htight, visible_cons hvalue, List.exists_mem_cons_iff, List.exists_mem_cons_iff,
          ih hrest]

theorem exists_visible_setFirst_self (hs : '>' ∉ s.value) (h : ∃ a ∈ visible as, a.Tight s.name) :
    ∃ a ∈ visible (setFirst s as), a.Tight s.name := by
  induction as with
  | nil => exact h
  | cons b as ih =>
    by_cases hvalue : '>' ∈ b.value
    · simp [visible_cons_of_mem hvalue] at h
    · rw [visible_cons hvalue] at h
      rw [setFirst]
      by_cases htight : b.Tight s.name
      · have hfree : '>' ∉ (s.inPlaceOf b).value := hs
        rw [if_pos htight, visible_cons hfree]
        exact ⟨s.inPlaceOf b, List.mem_cons_self, (s.tight_inPlaceOf b _).2 rfl⟩
      · have hrest : ∃ a ∈ visible as, a.Tight s.name := by simpa [htight] using h
        obtain ⟨a, ha, hatight⟩ := ih hrest
        rw [if_neg htight, visible_cons hvalue]
        exact ⟨a, List.mem_cons_of_mem b ha, hatight⟩

end List

/-! ### A setting in markup -/

namespace Markup

variable {m : Markup} {s t : Setting} {ss : List Setting} {n : List Char} {names : List (List Char)}

theorem set_of_reaches (h : m.Reaches s.name) :
    m.set s = { m with attributes := setFirst s m.attributes } := by
  rw [set, if_pos h]

theorem set_of_not_reaches (h : ¬ m.Reaches s.name) :
    m.set s = { m with attributes := s.first :: m.attributes } := by
  rw [set, if_neg h]

theorem mem_attributes_set {a : Attribute} (h : a ∈ (m.set s).attributes) :
    a ∈ m.attributes ∨ a.value = s.value := by
  by_cases hreach : m.Reaches s.name
  · rw [set_of_reaches hreach] at h
    exact mem_setFirst h
  · rw [set_of_not_reaches hreach] at h
    rcases List.mem_cons.1 h with rfl | h
    · exact .inr rfl
    · exact .inl h

theorem filter_set {p : Attribute → Bool} (hp : ∀ b, b.name = s.name → p b = false) :
    (m.set s).attributes.filter p = m.attributes.filter p := by
  by_cases hreach : m.Reaches s.name
  · rw [set_of_reaches hreach]
    exact filter_setFirst hp
  · have hfirst : p s.first = false := hp _ rfl
    rw [set_of_not_reaches hreach]
    exact List.filter_cons_of_neg (by simp [hfirst])

theorem Plain.set (hm : m.Plain names) (hs : ∀ n ∈ names, ¬ Lures n s.value) :
    (m.set s).Plain names where
  no_rootTag := hm.no_rootTag
  no_handle := hm.no_handle
  no_lure := by
    intro n hn a ha
    rcases mem_attributes_set ha with ha | ha
    · exact hm.no_lure n hn a ha
    · rw [ha]
      exact hs n hn

/-- **What can be found** of one name is not changed by setting another. -/
theorem reaches_set (hs : '>' ∉ s.value) (hn : n ≠ s.name) : (m.set s).Reaches n ↔ m.Reaches n := by
  by_cases hreach : m.Reaches s.name
  · rw [set_of_reaches hreach, Reaches, Reaches]
    exact and_congr_right fun _ => exists_visible_setFirst hs hn hreach.2
  · have hfirst : ¬ s.first.Tight n := fun h => hn ((Setting.tight_behind _ _).1 h).symm
    have hfree : '>' ∉ s.first.value := hs
    rw [set_of_not_reaches hreach, Reaches, Reaches]
    simp [visible_cons hfree, hfirst]

theorem reaches_set_self (hfront : m.front = []) (hs : '>' ∉ s.value) : (m.set s).Reaches s.name := by
  by_cases hreach : m.Reaches s.name
  · rw [set_of_reaches hreach]
    exact ⟨hfront, exists_visible_setFirst_self hs hreach.2⟩
  · have hfree : '>' ∉ s.first.value := hs
    rw [set_of_not_reaches hreach]
    refine ⟨hfront, s.first, ?_, (Setting.tight_behind _ _).2 rfl⟩
    simp [visible_cons hfree]

/-- **A setting that is made twice** is made once. -/
theorem set_set (hfront : m.front = []) (hs : '>' ∉ s.value) : (m.set s).set s = m.set s := by
  rw [set_of_reaches (reaches_set_self hfront hs)]
  by_cases hreach : m.Reaches s.name
  · simp only [set_of_reaches hreach, setFirst_setFirst]
  · have hfirst : s.first.Tight s.name := (Setting.tight_behind _ _).2 rfl
    simp only [set_of_not_reaches hreach, setFirst, if_pos hfirst, s.inPlaceOf_first]

/-- A setting that was made is not undone by one of another name. -/
theorem set_set_of_ne (ht : '>' ∉ t.value) (hname : s.name ≠ t.name) (h : m.set s = m) :
    (m.set t).set s = m.set t := by
  have hreach : m.Reaches s.name := by
    by_contra hreach
    have hlength := congrArg (fun m => m.attributes.length) h
    simp [set_of_not_reaches hreach] at hlength
  have hfirst : setFirst s m.attributes = m.attributes := by
    have hattributes := congrArg attributes h
    rwa [set_of_reaches hreach] at hattributes
  rw [set_of_reaches ((reaches_set ht hname).2 hreach)]
  by_cases hreach' : m.Reaches t.name
  · simp only [set_of_reaches hreach', setFirst_comm hname, hfirst]
  · have hother : ¬ t.first.Tight s.name := fun h => hname ((Setting.tight_behind _ _).1 h).symm
    simp only [set_of_not_reaches hreach', setFirst, if_neg hother, hfirst]

/-- The values of the attributes with a name. -/
def valuesOf (m : Markup) (n : List Char) : List (List Char) := Svg.valuesOf m.attributes n

/-- A name that is not repeated has one value at most. -/
theorem length_valuesOf_le_one (h : (m.attributes.map Attribute.name).Nodup) (n : List Char) :
    (m.valuesOf n).length ≤ 1 := by
  have hcount : (m.valuesOf n).length = (m.attributes.map Attribute.name).count n := by
    rw [valuesOf, Svg.valuesOf, List.length_map, ← List.countP_eq_length_filter, List.count,
      List.countP_map]
    exact List.countP_congr fun a _ => by simp
  rw [hcount]
  exact List.nodup_iff_count_le_one.1 h n

theorem valuesOf_set_of_ne (hn : n ≠ s.name) : (m.set s).valuesOf n = m.valuesOf n := by
  have hother : ∀ b : Attribute, b.name = s.name → decide (b.name = n) = false := by
    intro b hb
    exact decide_eq_false fun hbn => hn (hbn.symm.trans hb)
  rw [valuesOf, Svg.valuesOf, filter_set hother]
  rfl

/-- What is set is there. -/
theorem mem_valuesOf_set (m : Markup) (s : Setting) : s.value ∈ (m.set s).valuesOf s.name := by
  obtain ⟨a, ha, hname, hvalue⟩ :
      ∃ a ∈ (m.set s).attributes, a.name = s.name ∧ a.value = s.value := by
    by_cases hreach : m.Reaches s.name
    · obtain ⟨a, ha, htight⟩ := hreach.2
      rw [set_of_reaches hreach]
      exact exists_mem_setFirst ⟨a, List.takeWhile_subset _ ha, htight⟩
    · rw [set_of_not_reaches hreach]
      exact ⟨s.first, List.mem_cons_self, rfl, rfl⟩
  rw [← hvalue]
  exact List.mem_map_of_mem (List.mem_filter.2 ⟨ha, by simp [hname]⟩)

theorem valuesOf_set_self (hone : (m.valuesOf s.name).length ≤ 1) :
    (m.set s).valuesOf s.name = if m.Reaches s.name then [s.value] else s.value :: m.valuesOf s.name := by
  by_cases hreach : m.Reaches s.name
  · obtain ⟨a, ha, htight⟩ := hreach.2
    rw [if_pos hreach, set_of_reaches hreach]
    exact valuesOf_setFirst ⟨a, List.takeWhile_subset _ ha, htight⟩ hone
  · have hname : s.first.name = s.name := rfl
    rw [if_neg hreach, set_of_not_reaches hreach, valuesOf, Svg.valuesOf,
      List.filter_cons_of_pos (by simp [hname])]
    rfl

/-! ### Settings one after the other -/

/-- Markup with several attributes set. -/
def setAll (m : Markup) (ss : List Setting) : Markup := ss.foldl set m

@[simp] theorem setAll_cons (m : Markup) (s : Setting) (ss : List Setting) :
    m.setAll (s :: ss) = (m.set s).setAll ss := rfl

/-- What every setting keeps is kept by all of them. -/
theorem setAll_induction {P : Markup → Prop} (hm : P m) (h : ∀ s ∈ ss, ∀ m, P m → P (m.set s)) :
    P (m.setAll ss) := by
  induction ss generalizing m with
  | nil => exact hm
  | cons s ss ih =>
    exact ih (h s List.mem_cons_self m hm) fun t ht => h t (List.mem_cons_of_mem s ht)

variable (hbracket : ∀ s ∈ ss, '>' ∉ s.value) (hnames : (ss.map Setting.name).Nodup)

include hbracket hnames

/-- **What is set in a text**, one after the other, is set in its parts. -/
theorem foldlM_setAttribute_text (hm : m.Plain names) (hin : ∀ s ∈ ss, s.name ∈ names)
    (hlure : ∀ s ∈ ss, ∀ n ∈ names, ¬ Lures n s.value)
    (hinert : ∀ s ∈ ss, m.Reaches s.name → '\\' ∉ written s.name s.value) :
    ss.foldlM (fun cs s => setAttribute s.name s.value cs) m.text = .ok (m.setAll ss).text := by
  induction ss generalizing m with
  | nil => rfl
  | cons s ss ih =>
    obtain ⟨hs, hrest⟩ := List.nodup_cons.1 hnames
    have hmem : ∀ t ∈ ss, t ∈ s :: ss := fun t ht => List.mem_cons_of_mem s ht
    have hstep : setAttribute s.name s.value m.text = .ok (m.set s).text :=
      setAttribute_text hm (hin s List.mem_cons_self) (hinert s List.mem_cons_self)
    have hplain : (m.set s).Plain names := hm.set (hlure s List.mem_cons_self)
    have hinert' : ∀ t ∈ ss, (m.set s).Reaches t.name → '\\' ∉ written t.name t.value := by
      intro t ht hreach
      have hne : t.name ≠ s.name := fun h => hs (h ▸ List.mem_map_of_mem ht)
      exact hinert t (hmem t ht) ((reaches_set (hbracket s List.mem_cons_self) hne).1 hreach)
    rw [List.foldlM_cons, hstep]
    exact ih (fun t ht => hbracket t (hmem t ht)) hrest hplain (fun t ht => hin t (hmem t ht))
      (fun t ht => hlure t (hmem t ht)) hinert'

/-- **Of every setting** the same becomes as if it were the only one. -/
theorem valuesOf_setAll (hs : s ∈ ss) (hone : (m.valuesOf s.name).length ≤ 1) :
    (m.setAll ss).valuesOf s.name =
      if m.Reaches s.name then [s.value] else s.value :: m.valuesOf s.name := by
  induction ss generalizing m with
  | nil => exact absurd hs List.not_mem_nil
  | cons t ss ih =>
    obtain ⟨ht, hrest⟩ := List.nodup_cons.1 hnames
    rw [setAll_cons]
    rcases List.mem_cons.1 hs with rfl | hs
    · rw [← valuesOf_set_self hone]
      refine setAll_induction (P := fun m' => m'.valuesOf s.name = (m.set s).valuesOf s.name) rfl ?_
      intro t ht' m' hm'
      have hne : s.name ≠ t.name := fun h => ht (h ▸ List.mem_map_of_mem ht')
      rw [valuesOf_set_of_ne hne, hm']
    · have hne : s.name ≠ t.name := fun h => ht (h ▸ List.mem_map_of_mem hs)
      have hreach := reaches_set (m := m) (hbracket t List.mem_cons_self) hne
      have hvalues := valuesOf_set_of_ne (m := m) hne
      rw [ih (fun u hu => hbracket u (List.mem_cons_of_mem t hu)) hrest hs (by rwa [hvalues]), hvalues]
      simp only [hreach]

/-- After all settings each of them is made. -/
theorem set_setAll (hfront : m.front = []) (hs : s ∈ ss) : (m.setAll ss).set s = m.setAll ss := by
  induction ss generalizing m with
  | nil => exact absurd hs List.not_mem_nil
  | cons t ss ih =>
    obtain ⟨ht, hrest⟩ := List.nodup_cons.1 hnames
    have hbracket' : ∀ u ∈ ss, '>' ∉ u.value := fun u hu => hbracket u (List.mem_cons_of_mem t hu)
    rw [setAll_cons]
    rcases List.mem_cons.1 hs with rfl | hs
    · refine setAll_induction (P := fun m' => m'.set s = m')
        (set_set hfront (hbracket s List.mem_cons_self)) ?_
      intro t ht' m' hm'
      have hne : s.name ≠ t.name := fun h => ht (h ▸ List.mem_map_of_mem ht')
      exact set_set_of_ne (hbracket' t ht') hne hm'
    · exact ih hbracket' hrest hfront hs

omit hbracket hnames

theorem setAll_of_forall_set (h : ∀ s ∈ ss, m.set s = m) : m.setAll ss = m := by
  refine setAll_induction (P := fun m' => m' = m) rfl ?_
  rintro s hs m' rfl
  exact h s hs

end Markup

end SlidePress.Svg
