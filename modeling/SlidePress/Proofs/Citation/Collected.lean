import SlidePress.Citation.Collect
import SlidePress.Citation.Inline
import SlidePress.Proofs.Attempt
import SlidePress.Proofs.Distinct

/-! # What is collected

Every citation in a text of a slide's content is collected (`Citation.inField_subset_inEntries`): a
text that names one reference as a whole holds no groups of citations
(`Citation.inText_of_wholeId?`), so nothing is lost where such a text is taken for that one citation.
The name that is collected for it is the text without its at signs only if there is one at sign and a
name behind it, and nothing else (`Citation.wholeId?_eq_bareId_iff`). Leaving out all but the first
citation of each reference loses no name (`Deck.mem_ids_citations`). -/

namespace SlidePress

namespace Citation

/-! ### Texts -/

/-- A text without an opening bracket has no groups. -/
theorem ofSegments_of_not_mem {cs : List Char} (h : '[' ∉ cs) (start : Nat) :
    ofSegments start (segments cs) = [] := by
  unfold segments
  induction cs generalizing start with
  | nil => rfl
  | cons c cs ih =>
    rw [List.mem_cons, not_or] at h
    rw [segmentsFrom, if_neg (Ne.symm h.1)]
    exact ih h.2 (start + 1)

theorem mem_of_mem_withoutLineFeed {c : Char} {cs : List Char} (h : c ∈ cs) (hc : c ≠ '\n') :
    c ∈ withoutLineFeed cs := by
  induction cs using withoutLineFeed.induct with
  | case1 => cases h
  | case2 => exact absurd (List.mem_singleton.1 h) hc
  | case3 d cs hne ih =>
    rw [withoutLineFeed]
    · rcases List.mem_cons.1 h with rfl | h
      · exact List.mem_cons_self
      · exact List.mem_cons_of_mem _ (ih h)
    · exact hne

/-- **A text that names one reference** as a whole holds no groups. -/
theorem inText_of_wholeId? {s id : String} (h : wholeId? s.toList = some id) : inText s = [] := by
  refine ofSegments_of_not_mem (fun hbracket => ?_) 0
  unfold wholeId? at h
  split at h
  · rename_i r hs
    dsimp only at h
    split_ifs at h with hid
    rw [hs] at hbracket
    obtain ⟨-, hall⟩ := Bool.and_eq_true_iff.1 hid
    have hmem : '[' ∈ withoutLineFeed r :=
      mem_of_mem_withoutLineFeed ((List.mem_cons.1 hbracket).resolve_left (by decide)) (by decide)
    exact absurd (List.all_eq_true.1 hall _ hmem) (by decide)
  · cases h

/-- The citations in the groups of a text of the content are collected. -/
theorem inText_subset_inField (s : String) : inText s ⊆ inField s := by
  unfold inField
  split
  · rename_i id hid
    rw [inText_of_wholeId? hid]
    exact List.nil_subset _
  · exact List.Subset.refl _

/-- A text that names one reference as a whole is collected as a citation of it. -/
theorem map_id_inField {s id : String} (h : wholeId? s.toList = some id) :
    (inField s).map Citation.id = [id] := by
  rw [inField, h]
  rfl

/-- A text that is an at sign and the name of a reference alone. -/
def NamesAlone (s : String) : Prop :=
  ∃ id, s = "@" ++ id ∧ id ≠ "" ∧ id.toList.all isIdChar = true

theorem withoutLineFeed_of_not_mem {cs : List Char} (h : '\n' ∉ cs) : withoutLineFeed cs = cs := by
  induction cs using withoutLineFeed.induct with
  | case1 => rfl
  | case2 => exact absurd List.mem_cons_self h
  | case3 c cs hne ih =>
    rw [withoutLineFeed, ih fun hmem => h (List.mem_cons_of_mem _ hmem)]
    exact hne

theorem bareId_of_not_mem {cs : List Char} (h : '@' ∉ cs) :
    CitationStyle.bareId (String.ofList ('@' :: cs)) = String.ofList cs := by
  have hkept : cs.dropWhile (· == '@') = cs := by
    cases cs with
    | nil => rfl
    | cons c cs => exact List.dropWhile_cons_of_neg fun hc => h (by simp [beq_iff_eq.1 hc])
  rw [CitationStyle.bareId, String.toList_ofList, List.dropWhile_cons_of_pos rfl, hkept]

theorem atSign_append (id : String) : "@" ++ id = String.ofList ('@' :: id.toList) := by
  rw [← String.toList_inj, String.toList_append, String.toList_ofList (l := '@' :: id.toList)]
  rfl

/-- **A text is collected under its name without at signs** exactly if it is one at sign and a name
alone. -/
theorem wholeId?_eq_bareId_iff {s : String} :
    wholeId? s.toList = some (CitationStyle.bareId s) ↔ NamesAlone s := by
  constructor
  · intro h
    unfold wholeId? at h
    split at h
    · rename_i r hs
      dsimp only at h
      split_ifs at h with hid
      obtain ⟨hne, hall⟩ := Bool.and_eq_true_iff.1 hid
      -- no name has an at sign in it, so there is only the one in front
      have hat : '@' ∉ r := fun hmem =>
        absurd (List.all_eq_true.1 hall _ (mem_of_mem_withoutLineFeed hmem (by decide))) (by decide)
      have hs' : s = String.ofList ('@' :: r) := by rw [← hs, String.ofList_toList]
      rw [hs', bareId_of_not_mem hat, Option.some.injEq, String.ofList_inj] at h
      rw [h] at hne hall
      refine ⟨String.ofList r, ?_, fun hempty => ?_, by rwa [String.toList_ofList]⟩
      · rw [atSign_append, String.toList_ofList, hs']
      · have hnil : r = [] := by simpa using hempty
        rw [hnil] at hne
        cases hne
    · cases h
  · rintro ⟨id, rfl, hne, hall⟩
    have hnot {c : Char} (hc : isIdChar c = false) : c ∉ id.toList := fun hmem => by
      rw [List.all_eq_true.1 hall c hmem] at hc
      cases hc
    have hempty : id.toList.isEmpty = false := by simpa using hne
    rw [atSign_append, bareId_of_not_mem (hnot (by decide)), String.toList_ofList, wholeId?,
      withoutLineFeed_of_not_mem (hnot (by decide)), hempty, hall]
    rfl

/-! ### Values -/

theorem inEntries_eq (es : Entries) : inEntries es = es.flatMap fun e => inValue e.2 := by
  induction es with
  | nil => rfl
  | cons e es ih => rw [inEntries_cons, ih, List.flatMap_cons]

theorem inValues_eq (xs : List Value) : inValues xs = xs.flatMap inValue := by
  induction xs with
  | nil => rfl
  | cons x xs ih => rw [inValues, ih, List.flatMap_cons]

theorem inField_subset_inEntries {es : Entries} {k : Value} {s : String} (h : (k, .str s) ∈ es) :
    inField s ⊆ inEntries es := fun c hc => by
  rw [inEntries_eq]
  exact List.mem_flatMap.2 ⟨_, h, by rwa [inValue]⟩

theorem inField_subset_inEntries_of_mem {es : Entries} {k : Value} {xs : List Value} {s : String}
    (h : (k, .list xs) ∈ es) (hs : .str s ∈ xs) : inField s ⊆ inEntries es := fun c hc => by
  rw [inEntries_eq]
  refine List.mem_flatMap.2 ⟨_, h, ?_⟩
  rw [inValue, inValues_eq]
  exact List.mem_flatMap.2 ⟨_, hs, by rwa [inValue]⟩

end Citation

/-! ### Nesting -/

namespace Value

theorem nestsAny_eq_false {xs : List Value} : nestsAny xs = false ↔ ∀ x ∈ xs, x.nests = false := by
  induction xs with
  | nil => simp [nestsAny]
  | cons x xs ih => simp [nestsAny, ih]

theorem nestsEntries_eq_false {es : Entries} :
    nestsEntries es = false ↔ ∀ e ∈ es, e.2.nests = false := by
  induction es with
  | nil => simp [nestsEntries]
  | cons e es ih => simp [nestsEntries, ih]

end Value

namespace Citation

/-! ### First citations -/

theorem mem_map_id_firstsAfter {id : String} {seen : List String} {cs : List Citation} :
    id ∈ (firstsAfter seen cs).map Citation.id ↔ id ∈ cs.map Citation.id ∧ id ∉ seen := by
  induction cs generalizing seen with
  | nil => simp [firstsAfter]
  | cons c cs ih =>
    unfold firstsAfter
    split_ifs with hseen
    · rw [ih, List.map_cons, List.mem_cons]
      have hne : id ∉ seen → id ≠ c.id := by
        rintro hid rfl
        exact hid (by simpa using hseen)
      grind
    · rw [List.map_cons, List.map_cons, List.mem_cons, List.mem_cons, ih, List.mem_cons]
      have hc : c.id ∉ seen := by simpa using hseen
      grind

theorem mem_map_id_firsts {id : String} {cs : List Citation} :
    id ∈ (firsts cs).map Citation.id ↔ id ∈ cs.map Citation.id := by
  rw [firsts, mem_map_id_firstsAfter]
  exact and_iff_left List.not_mem_nil

theorem mem_ids {id : String} {cs : List Citation} : id ∈ ids cs ↔ id ∈ cs.map Citation.id :=
  List.mem_eraseDups

theorem nodup_ids (cs : List Citation) : (ids cs).Nodup := nodup_eraseDups _

end Citation

open Citation

theorem Slide.mem_map_id_citations {s : Slide} {id : String}
    (h : id ∈ (inEntries s.content).map Citation.id) : id ∈ s.citations.map Citation.id := by
  rw [citations, mem_map_id_firsts, List.map_append]
  exact List.mem_append_left _ h

/-- **What the content of a slide cites** is among the citations of the deck. -/
theorem Deck.mem_ids_citations {d : Deck} {s : Slide} (hs : s ∈ d.slides) {id : String}
    (h : id ∈ (inEntries s.content).map Citation.id) : id ∈ ids d.citations := by
  rw [mem_ids, citations, mem_map_id_firsts, List.map_flatMap]
  exact List.mem_flatMap.2 ⟨s, hs, Slide.mem_map_id_citations h⟩

end SlidePress
