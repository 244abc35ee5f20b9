import SlidePress.Proofs.Reference.Plain
import SlidePress.Proofs.Text.Split

/-! # The names of the authors

The authors of a reference are named twice: at the head of its entry in a bibliography and in the data
that templates are given for it. The data has a name for each author, the family name with the initial
of the given name if there is one. The head of an English entry has the same names in a row, but an
author without a given name gets the comma all the same; the head of a Japanese entry has the names as
they are written together, and the word for null where a given name is null. -/

namespace SlidePress.Reference

/-- Names in a row, with an ampersand before the last of two or more. -/
def row (names : List String) : String :=
  ", ".intercalate (if names.length < 2 then names
    else names.dropLast ++ ["& " ++ names.getLast?.getD ""])

namespace Author

/-- The name of an author: the family name, with the initial of the given name if there is one. -/
def name (a : Author) : String :=
  match a.given with
  | .str given =>
    match given.toList with
    | c :: _ => a.family.text ++ ", " ++ String.singleton c ++ "."
    | [] => a.family.text
  | _ => a.family.text

/-- The name of an author at the head of an English entry. -/
def headName (a : Author) : String := if a.given.truthy then a.name else a.name ++ ", "

end Author

/-! ### One author -/

namespace Author.Plain

variable {a : Author}

/-- The given name of a plain author is a text with a first character, or it counts for nothing. -/
theorem given_cases (h : Author.Plain a) :
    (∃ s c cs, a.given = .str s ∧ s.toList = c :: cs ∧ a.given.truthy = true ∧
      a.name = a.family.text ++ ", " ++ String.singleton c ++ ".") ∨
    a.given.truthy = false ∧ a.name = a.family.text := by
  rcases h.given with hnull | ⟨s, hs⟩
  · have hgiven : a.given = .null := hnull
    exact .inr ⟨by rw [hgiven]; rfl, by rw [Author.name, hgiven]⟩
  · have hgiven : a.given = .str s := hs
    cases hcs : s.toList with
    | nil =>
      obtain rfl := String.toList_eq_nil_iff.1 hcs
      exact .inr ⟨by rw [hgiven]; rfl, by rw [Author.name, hgiven]; rfl⟩
    | cons c cs =>
      refine .inl ⟨s, c, cs, hgiven, hcs, ?_, by rw [Author.name, hgiven]; simp only [hcs]⟩
      have hne : s ≠ "" := fun h => by simp [h] at hcs
      rw [hgiven]
      simpa [Value.truthy] using hne

theorem templateName_eq (h : Author.Plain a) : a.templateName = .ok (.str a.name) := by
  rcases h.given_cases with ⟨s, c, cs, hgiven, hcs, ht, hname⟩ | ⟨ht, hname⟩
  · have hinitial : abbreviated a.given = .ok (String.singleton c ++ ".") :=
      hgiven ▸ abbreviated_eq hcs
    rw [Author.templateName, if_pos ht, Attempt.bind_ok hinitial, hname, ← String.append_assoc]
    rfl
  · obtain ⟨s, hs⟩ := h.family
    rw [Author.templateName, if_neg (by simp [ht]), hname, hs]
    rfl

theorem withInitial_eq (h : Author.Plain a) : a.withInitial = .ok a.headName := by
  rcases h.given_cases with ⟨s, c, cs, hgiven, hcs, ht, hname⟩ | ⟨ht, hname⟩
  · have hinitial : a.initial = .ok (String.singleton c ++ ".") := by
      rw [Author.initial, if_pos ht, hgiven, abbreviated_eq hcs]
    rw [Author.withInitial, Attempt.bind_ok hinitial, headName, if_pos ht, hname,
      ← String.append_assoc]
    rfl
  · have hinitial : a.initial = .ok "" := by rw [Author.initial, if_neg (by simp [ht])]
    rw [Author.withInitial, Attempt.bind_ok hinitial, headName, if_neg (by simp [ht]), hname,
      String.append_empty]
    rfl

/-- An author without a given name has no given name at all, an empty one or null. -/
theorem bare_cases (h : Author.Plain a) (hbare : a.given.truthy = false) :
    a.get? "given" = none ∨ a.get? "given" = some (.str "") ∨ a.get? "given" = some .null := by
  have hgiven : a.given = (a.get? "given").getD .null := rfl
  rcases h.given_cases with ⟨_, _, _, _, _, ht, _⟩ | _
  · rw [hbare] at ht
    cases ht
  · cases hget : a.get? "given" with
    | none => exact .inl rfl
    | some v =>
      rw [hget, Option.getD_some] at hgiven
      rw [← hgiven]
      rcases h.given with hnull | ⟨s, hs⟩
      · exact .inr (.inr (congrArg some hnull))
      · have hs : a.given = .str s := hs
        rw [hs] at hbare ⊢
        exact .inr (.inl (by simpa [Value.truthy] using hbare))

theorem name_of_bare (h : Author.Plain a) (hbare : a.given.truthy = false) :
    a.name = a.family.text := by
  rcases h.given_cases with ⟨_, _, _, _, _, ht, _⟩ | ⟨_, hname⟩
  · rw [hbare] at ht
    cases ht
  · exact hname

/-- Written together, a given name that is missing or empty adds nothing, and one that is null adds
the word for null. -/
theorem together_of_bare (h : Author.Plain a) (hbare : a.given.truthy = false) :
    (a.get? "given" ≠ some .null → a.together = a.family.text) ∧
      (a.get? "given" = some .null → a.together = a.family.text ++ "None") := by
  unfold Author.together
  rcases h.bare_cases hbare with hget | hget | hget <;> rw [hget]
  · exact ⟨fun _ => String.append_empty, fun h => by cases h⟩
  · exact ⟨fun _ => String.append_empty, fun h => by cases h⟩
  · exact ⟨fun h => absurd rfl h, fun _ => rfl⟩

end Author.Plain

/-! ### All authors -/

theorem namedList_eq {as : List Author} (h : ∀ a ∈ as, Author.Plain a) (hne : as ≠ []) :
    namedList as = .ok ((as.map Author.headName).dropLast ++
      ["& " ++ (as.map Author.headName).getLast?.getD ""]) := by
  induction as with
  | nil => exact absurd rfl hne
  | cons a as ih =>
    have ha := (h a List.mem_cons_self).withInitial_eq
    cases as with
    | nil => exact Attempt.bind_ok ha _
    | cons b as =>
      have hrest := ih (fun c hc => h c (List.mem_cons_of_mem a hc)) (List.cons_ne_nil b as)
      exact (Attempt.bind_ok ha _).trans (Attempt.bind_ok hrest _)

/-- The authors at the head of an English entry. -/
theorem allAuthors_english {as : List Author} (h : ∀ a ∈ as, Author.Plain a) (hne : as ≠ []) :
    allAuthors as false = .ok (row (as.map Author.headName)) := by
  match as with
  | [a] => exact (h a List.mem_cons_self).withInitial_eq.trans (by simp [row])
  | a :: b :: as =>
    refine (Attempt.bind_ok (namedList_eq h hne) _).trans ?_
    rw [row, if_neg (by simp)]
    rfl

/-- The authors at the head of a Japanese entry. -/
theorem allAuthors_japanese {as : List Author} (hne : as ≠ []) :
    allAuthors as true = .ok (", ".intercalate (as.map Author.together)) := by
  cases as with
  | nil => exact absurd rfl hne
  | cons a as => rfl

/-! ### Rows -/

/-- How long a row is depends on the number of the names and their lengths. -/
theorem length_row {ns : List String} (hne : ns ≠ []) :
    (row ns).length + 2 =
      (ns.map fun n => n.length + 2).sum + if ns.length < 2 then 0 else 2 := by
  unfold row
  split_ifs with hshort
  · exact Text.length_intercalate ", " ns hne
  · obtain ⟨init, last, rfl⟩ : ∃ init last, ns = init ++ [last] :=
      ⟨_, _, (List.dropLast_append_getLast hne).symm⟩
    have hlength := Text.length_intercalate ", " (init ++ ["& " ++ last]) (by simp)
    rw [show (", ".length : Nat) = 2 from rfl] at hlength
    rw [List.dropLast_concat, List.getLast?_concat, Option.getD_some, hlength]
    simp only [List.map_append, List.map_cons, List.map_nil, List.sum_append, List.sum_cons,
      List.sum_nil, String.length_append, show "& ".length = 2 from rfl]
    omega

/-- Every author without a given name has two characters more at the head of an English entry. -/
theorem length_headNames (as : List Author) :
    ((as.map Author.headName).map fun n => n.length + 2).sum =
      ((as.map Author.name).map fun n => n.length + 2).sum +
        2 * as.countP fun a => !a.given.truthy := by
  induction as with
  | nil => rfl
  | cons a as ih =>
    have hlength : a.headName.length = a.name.length + if a.given.truthy then 0 else 2 := by
      unfold Author.headName
      split_ifs
      · rfl
      · rw [String.length_append]
        rfl
    simp only [List.map_cons, List.sum_cons, List.countP_cons, ih, hlength]
    cases a.given.truthy <;> simp <;> omega

/-- The head of an English entry is the row of the names exactly if all authors have a given name. -/
theorem row_headNames_eq_iff {as : List Author} (hne : as ≠ []) :
    row (as.map Author.headName) = row (as.map Author.name) ↔
      ∀ a ∈ as, a.given.truthy = true := by
  have hhead : (row (as.map Author.headName)).length + 2 = _ := length_row (by simpa using hne)
  have hname : (row (as.map Author.name)).length + 2 = _ := length_row (by simpa using hne)
  have hdiff := length_headNames as
  rw [List.length_map] at hhead hname
  constructor
  · intro h
    rw [h] at hhead
    have hcount : as.countP (fun a => !a.given.truthy) = 0 := by omega
    simpa using List.countP_eq_zero.1 hcount
  · intro h
    refine congrArg row (List.map_congr_left fun a ha => ?_)
    rw [Author.headName, if_pos (h a ha)]

/-! ### Entries -/

/-- The authors with a family name among some values. -/
def namedAmong (vs : List Value) : List Author :=
  vs.filterMap fun
    | .map es => if (Author.family es).truthy then some es else none
    | _ => none

theorem authorsAmong_eq {vs : List Value} (h : ∀ v ∈ vs, ∃ es : Entries, v = .map es) :
    authorsAmong vs = .ok (namedAmong vs) := by
  induction vs with
  | nil => rfl
  | cons v vs ih =>
    obtain ⟨es, rfl⟩ := h v List.mem_cons_self
    rw [authorsAmong_cons_map es vs _ (ih fun w hw => h w (List.mem_cons_of_mem _ hw))]
    by_cases ht : (Author.family es).truthy = true <;> simp [namedAmong, ht]

theorem mapM_templateName {as : List Author} (h : ∀ a ∈ as, Author.Plain a) :
    as.mapM Author.templateName = .ok (as.map fun a => .str a.name) := by
  refine Attempt.mapM_eq_ok_iff_map.2 ?_
  rw [List.map_map]
  exact List.map_congr_left fun a ha => (h a ha).templateName_eq

theorem lookup_authors (names : List Value) (hne : names ≠ []) (r : Reference) (id title : Value)
    (year : Int) :
    ([("id", id), ("title", title)] ++ optionalFields names year r).lookup "authors" =
      some (.list names) := by
  have hempty : names.isEmpty = false := by simpa using hne
  simp [optionalFields, hempty, List.lookup_cons]

/-- **The names of the authors.** In the data for templates, each author with a family name is named by
it and the initial of the given name, and by the bare family name if there is none. At the head of an
English entry the same names stand in a row exactly if every author has a given name; each author
without one is followed by a comma and a blank. At the head of a Japanese entry such an author has the
bare family name unless the given name is null, for which the word for null is written. -/
theorem entries_of_authors (r : Reference) {vs : List Value} (hvs : r.field "author" = .list vs)
    (hkinds : ∀ v ∈ vs, ∃ es : Entries, v = .map es ∧ es.MaybeText "family" ∧ es.MaybeText "given")
    (hnamed : namedAmong vs ≠ []) :
    ∃ japanese head, isJapanese (namedAmong vs) = .ok japanese ∧
      (r.fullEntry = r.year.map fun y => " ".intercalate ([head, "(" ++ toString y ++ ")."] ++
        [r.title?, r.journal? japanese, r.identifier?].filterMap id)) ∧
      (∀ key y, r.fields.get? "id" = some key → r.year = .ok y → ∃ es, r.templateEntry = .ok es ∧
        es.get? "authors" = some (.list ((namedAmong vs).map fun a => .str a.name))) ∧
      (japanese = false → head = row ((namedAmong vs).map Author.headName) ∧
        (head = row ((namedAmong vs).map Author.name) ↔
          ∀ a ∈ namedAmong vs, a.given.truthy = true)) ∧
      (japanese = true → head = ", ".intercalate ((namedAmong vs).map Author.together)) ∧
      ∀ a ∈ namedAmong vs, a.given.truthy = false → a.name = a.family.text ∧
        a.headName = a.family.text ++ ", " ∧
        (a.get? "given" ≠ some .null → a.together = a.family.text) ∧
        (a.get? "given" = some .null → a.together = a.family.text ++ "None") := by
  have hauthors : r.authors = .ok (namedAmong vs) := by
    have ht : (Value.list vs).truthy = true := by
      cases vs with
      | nil => exact absurd rfl hnamed
      | cons v vs => rfl
    rw [Reference.authors, hvs, if_pos ht]
    exact authorsAmong_eq fun v hv => (hkinds v hv).imp fun es h => h.1
  have hplain : ∀ a ∈ namedAmong vs, Author.Plain a := by
    obtain ⟨as, has, hplain⟩ := exists_authorsAmong hkinds
    have heq := authorsAmong_eq fun v hv => (hkinds v hv).imp fun es h => h.1
    rw [heq] at has
    cases has
    exact hplain
  obtain ⟨japanese, hjapanese⟩ := exists_isJapanese hplain
  obtain ⟨head, hhead⟩ := exists_allAuthors hplain japanese
  refine ⟨japanese, head, hjapanese, ?_, ?_, ?_, ?_, ?_⟩
  · refine (Attempt.bind_ok hauthors _).trans ((Attempt.bind_ok hjapanese _).trans
      ((Attempt.bind_ok hhead _).trans ?_))
    cases r.year <;> rfl
  · intro key y hkey hy
    have hfound : Attempt.ofOption .noKey (r.fields.get? "id") = .ok key := by rw [hkey]; rfl
    refine ⟨_, (Attempt.bind_ok hauthors _).trans ((Attempt.bind_ok (mapM_templateName hplain) _).trans
      ((Attempt.bind_ok hfound _).trans (Attempt.bind_ok hy _))), ?_⟩
    rw [Entries.get?_ofNames]
    exact lookup_authors _ (by simpa using hnamed) r key _ y
  · rintro rfl
    obtain rfl := Except.ok.inj (hhead.symm.trans (allAuthors_english hplain hnamed))
    exact ⟨rfl, row_headNames_eq_iff hnamed⟩
  · rintro rfl
    exact Except.ok.inj (hhead.symm.trans (allAuthors_japanese hnamed))
  · intro a ha hbare
    have hname := (hplain a ha).name_of_bare hbare
    have htogether := (hplain a ha).together_of_bare hbare
    exact ⟨hname, by rw [Author.headName, hbare, hname]; rfl, htogether.1, htogether.2⟩

/-- An item with two authors, the second of them without a given name. -/
def dialogue : Reference :=
  ⟨Entries.ofNames [("id", .str "d"), ("title", .str "Dialogue"), ("author", .list
    [.map (Entries.ofNames [("family", .str "Smith"), ("given", .str "John")]),
      .map (Entries.ofNames [("family", .str "Plato"), ("given", .null)])])]⟩

theorem entries_of_dialogue :
    dialogue.fullEntry = .ok "Smith, J., & Plato,  (0). Dialogue." ∧
    ∃ es, dialogue.templateEntry = .ok es ∧
      es.get? "authors" = some (.list [.str "Smith, J.", .str "Plato"]) ∧
      row ["Smith, J.", "Plato"] = "Smith, J., & Plato" := by
  obtain ⟨japanese, head, hjapanese, hentry, hdata, henglish, -, -⟩ :=
    entries_of_authors dialogue rfl
      (fun v hv => by
        simp only [List.mem_cons, List.not_mem_nil, or_false] at hv
        rcases hv with rfl | rfl
        · exact ⟨_, rfl, .inr ⟨"Smith", rfl⟩, .inr ⟨"John", rfl⟩⟩
        · exact ⟨_, rfl, .inr ⟨"Plato", rfl⟩, .inl rfl⟩)
      (List.cons_ne_nil _ _)
  obtain rfl : false = japanese := Except.ok.inj hjapanese
  obtain ⟨es, hes, hauthors⟩ := hdata (.str "d") 0 rfl rfl
  obtain rfl := (henglish rfl).1
  exact ⟨hentry.trans rfl, es, hes, hauthors.trans rfl, rfl⟩

end SlidePress.Reference
