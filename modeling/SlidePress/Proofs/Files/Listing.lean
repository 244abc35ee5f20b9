import Mathlib.Data.List.Nodup
import Mathlib.Data.String.Basic
import SlidePress.Files

/-! # The files of a tree

A tree is listed folder by folder, each one in the order of the names in it and with what is in a
folder in the place of the folder. Where the names in each folder are different (`Proper`), the list
has every file of the tree once, and it is in order as a whole: by the names on the way, the first
names first. This is not the order of the paths as texts: a folder `a` comes in front of a file
`a.yaml` in the same folder, and what is in `a` with it.

* `pairwise_inOrder`, `inOrder_perm`: sorting by names.
* `mem_files_iff`: what is listed.
* `pairwise_files`: the order of the list.
* `proper_ofPaths`: the trees that are built from paths. -/

namespace SlidePress.FileTree

mutual

/-- The files of a tree with the ways to them: those of each folder in the order of its entries'
names, with what is in a folder in the place of the folder. -/
def files : FileTree → List (List String × Body)
  | file b => [([], b)]
  | folder es => (inOrder (filesOfEntries es)).flatMap Prod.snd
termination_by structural t => t

/-- The files of each of several entries, beside the name of the entry. -/
def filesOfEntries : List (String × FileTree) → List (String × List (List String × Body))
  | [] => []
  | (name, t) :: es =>
    (name, (files t).map fun f => (name :: f.1, f.2)) :: filesOfEntries es
termination_by structural es => es

end

/-- The names in each folder are different. -/
inductive Proper : FileTree → Prop
  | file (b : Body) : Proper (file b)
  | folder {es : List (String × FileTree)} (names : (es.map Prod.fst).Nodup)
      (inner : ∀ e ∈ es, Proper e.2) : Proper (folder es)

/-! ### Sorting by names -/

section

variable {α β : Type}

theorem insertPart_perm (p : String × α) (ps : List (String × α)) : (insertPart p ps).Perm (p :: ps) := by
  induction ps with
  | nil => exact .refl _
  | cons q qs ih =>
    unfold insertPart
    split
    · exact .refl _
    · exact (ih.cons q).trans (.swap p q qs)

theorem inOrder_perm (ps : List (String × α)) : (inOrder ps).Perm ps := by
  induction ps with
  | nil => exact .refl _
  | cons p ps ih => exact (insertPart_perm p (inOrder ps)).trans (ih.cons p)

theorem insertPart_map (f : String × α → β) (p : String × α) (ps : List (String × α)) :
    insertPart (p.1, f p) (ps.map fun q => (q.1, f q)) =
      (insertPart p ps).map fun q => (q.1, f q) := by
  induction ps with
  | nil => rfl
  | cons q qs ih =>
    rw [List.map_cons, insertPart, insertPart, ih]
    split <;> rfl

/-- Sorting looks at the names alone. -/
theorem inOrder_map (f : String × α → β) (ps : List (String × α)) :
    inOrder (ps.map fun p => (p.1, f p)) = (inOrder ps).map fun p => (p.1, f p) := by
  induction ps with
  | nil => rfl
  | cons p ps ih =>
    show insertPart (p.1, f p) (inOrder _) = _
    rw [ih]
    exact insertPart_map f p (inOrder ps)

theorem pairwise_insertPart {p : String × α} {ps : List (String × α)}
    (h : ps.Pairwise (·.1 < ·.1)) (hp : p.1 ∉ ps.map Prod.fst) :
    (insertPart p ps).Pairwise (·.1 < ·.1) := by
  induction ps with
  | nil => exact List.pairwise_singleton _ p
  | cons q qs ih =>
    obtain ⟨hq, hqs⟩ := List.pairwise_cons.1 h
    obtain ⟨hne, hrest⟩ := not_or.1 (mt List.mem_cons.2 hp)
    unfold insertPart
    split
    · rename_i hlt
      refine List.pairwise_cons.2 ⟨fun r hr => ?_, h⟩
      rcases List.mem_cons.1 hr with rfl | hr
      · exact hlt
      · exact hlt.trans (hq r hr)
    · rename_i hlt
      have hle : q.1 < p.1 := lt_of_le_of_ne (not_lt.1 hlt) (Ne.symm hne)
      refine List.pairwise_cons.2 ⟨fun r hr => ?_, ih hqs hrest⟩
      rcases List.mem_cons.1 ((insertPart_perm p qs).mem_iff.1 hr) with rfl | hr
      · exact hle
      · exact hq r hr

/-- Different names are put into their order. -/
theorem pairwise_inOrder {ps : List (String × α)} (h : (ps.map Prod.fst).Nodup) :
    (inOrder ps).Pairwise (·.1 < ·.1) := by
  induction ps with
  | nil => exact .nil
  | cons p ps ih =>
    obtain ⟨hp, hps⟩ := List.nodup_cons.1 h
    exact pairwise_insertPart (ih hps) (mt ((inOrder_perm ps).map Prod.fst).mem_iff.1 hp)

end

/-! ### What is listed -/

theorem filesOfEntries_eq_map (es : List (String × FileTree)) :
    filesOfEntries es = es.map fun e => (e.1, (files e.2).map fun f => (e.1 :: f.1, f.2)) := by
  induction es with
  | nil => rfl
  | cons e es ih =>
    rw [filesOfEntries, ih]
    rfl

/-- A folder's entries in their order, each one with what it holds. -/
theorem files_folder (es : List (String × FileTree)) :
    files (folder es) =
      (inOrder es).flatMap fun e => (files e.2).map fun f => (e.1 :: f.1, f.2) := by
  rw [files, filesOfEntries_eq_map, inOrder_map fun e => (files e.2).map fun f => (e.1 :: f.1, f.2),
    List.flatMap_map]

theorem mem_files_folder {es : List (String × FileTree)} {f : List String × Body} :
    f ∈ files (folder es) ↔ ∃ e ∈ es, ∃ g ∈ files e.2, (e.1 :: g.1, g.2) = f := by
  rw [files_folder, List.mem_flatMap]
  simp only [(inOrder_perm es).mem_iff, List.mem_map]

theorem lookup_eq_some_iff {es : List (String × FileTree)} (h : (es.map Prod.fst).Nodup)
    {name : String} {t : FileTree} : es.lookup name = some t ↔ (name, t) ∈ es := by
  induction es with
  | nil => simp
  | cons e es ih =>
    obtain ⟨he, hes⟩ := List.nodup_cons.1 h
    rw [List.lookup_cons, List.mem_cons]
    by_cases hname : name = e.1
    · subst hname
      have hrest : (e.1, t) ∉ es := fun ht => he (List.mem_map.2 ⟨_, ht, rfl⟩)
      simp [hrest, Prod.ext_iff, eq_comm]
    · have hfirst : (name, t) ≠ e := fun hne => hname (congrArg Prod.fst hne)
      rw [beq_false_of_ne hname, or_iff_right hfirst]
      exact ih hes

/-- **What is listed** are the files of the tree. -/
theorem mem_files_iff {t : FileTree} (h : t.Proper) (way : List String) (b : Body) :
    (way, b) ∈ t.files ↔ t.find? way = some (.file b) := by
  induction h generalizing way with
  | file b' =>
    cases way with
    | nil => simp [files, find?, eq_comm]
    | cons name way => simp [files, find?]
  | @folder es names inner ih =>
    rw [mem_files_folder]
    cases way with
    | nil => simp [find?]
    | cons name way =>
      rw [find?, Option.bind_eq_some_iff]
      simp only [lookup_eq_some_iff names]
      constructor
      · rintro ⟨e, he, g, hg, heq⟩
        cases heq
        exact ⟨e.2, he, (ih e he g.1).1 hg⟩
      · rintro ⟨t, ht, hfind⟩
        exact ⟨(name, t), ht, (way, b), (ih (name, t) ht way).2 hfind, rfl⟩

/-- **The order of the list**: by the names on the way, the first names first. -/
theorem pairwise_files {t : FileTree} (h : t.Proper) : t.files.Pairwise (·.1 < ·.1) := by
  induction h with
  | file b => exact List.pairwise_singleton _ _
  | @folder es names inner ih =>
    rw [files_folder, List.pairwise_flatMap]
    refine ⟨fun e he => ?_, (pairwise_inOrder names).imp fun {e e'} hlt => ?_⟩
    · refine List.pairwise_map.2 ((ih e ((inOrder_perm es).mem_iff.1 he)).imp fun {f g} hfg => ?_)
      exact List.Lex.cons hfg
    · intro f hf g hg
      obtain ⟨f, -, rfl⟩ := List.mem_map.1 hf
      obtain ⟨g, -, rfl⟩ := List.mem_map.1 hg
      exact List.Lex.rel hlt

/-! ### Trees built from paths -/

theorem proper_entries {t : FileTree} (h : t.Proper) :
    (t.entries.map Prod.fst).Nodup ∧ ∀ e ∈ t.entries, e.2.Proper := by
  cases h with
  | file b => exact ⟨List.nodup_nil, fun e he => absurd he List.not_mem_nil⟩
  | folder names inner => exact ⟨names, inner⟩

/-- What is put into a folder takes the place of what has its name. -/
theorem proper_place (b : Body) (way : List String) {t : FileTree} (h : t.Proper) :
    (place b way t).Proper := by
  induction way generalizing t with
  | nil =>
    obtain ⟨names, inner⟩ := proper_entries h
    cases b with
    | folder => exact .folder names inner
    | text s => exact .file _
    | bytes bs => exact .file _
  | cons name way ih =>
    obtain ⟨names, inner⟩ := proper_entries h
    have hold : ((t.entries.lookup name).getD empty).Proper := by
      cases hlookup : t.entries.lookup name with
      | none => exact .folder List.nodup_nil fun e he => absurd he List.not_mem_nil
      | some old => exact inner _ ((lookup_eq_some_iff names).1 hlookup)
    refine .folder ?_ fun e he => ?_
    · rw [List.map_append, List.nodup_append']
      refine ⟨names.sublist (List.filter_sublist.map _), List.nodup_singleton _, ?_⟩
      rw [List.map_singleton, List.disjoint_singleton]
      intro hname
      obtain ⟨e, he, heq⟩ := List.mem_map.1 hname
      simpa [heq] using (List.mem_filter.1 he).2
    · rcases List.mem_append.1 he with he | he
      · exact inner e (List.mem_filter.1 he).1
      · rw [List.mem_singleton.1 he]
        exact ih hold

theorem proper_ofPaths (files : List (String × Body)) : (ofPaths files).Proper := by
  have hfoldl : ∀ (files : List (String × Body)) (t : FileTree), t.Proper →
      (files.foldl (fun t f => place f.2 (steps f.1) t) t).Proper := by
    intro files
    induction files with
    | nil => exact fun t h => h
    | cons f files ih => exact fun t h => ih _ (proper_place f.2 (steps f.1) h)
  exact hfoldl files empty (.folder List.nodup_nil fun e he => absurd he List.not_mem_nil)

end SlidePress.FileTree
