import SlidePress.Proofs.Attempt
import SlidePress.Proofs.Files.Listing
import SlidePress.Registry.Basic

/-! # Loading a folder

A folder is loaded entry by entry, each folder in it in its place, and a failure inside ends the
loading of all the folders around it. Seen from outside this is one pass over one list: the files of
the tree that declare templates, in the order of the names on the way to them (`loadFiles`), each of
them loaded as a file by itself is, up to the first that fails.

* `inTurn_loadFiles`: passes over several lists are one pass over all of them.
* `loadEntry_eq`: loading an entry is the pass over its files.
* `loadFiles_cases`: a pass goes to the end or up to the first failure.
* `loadTree_cases`: so does the loading of a folder. -/

namespace SlidePress.Registry

/-- Whether a way leads to a file that declares a template. -/
def declares (way : List String) : Bool := endings.contains (fileEnding (way.getLast?.getD ""))

/-- Loads files one after the other, up to the first that fails. -/
def loadFiles (r : Registry) (path : String) : List (List String × Body) → Loading
  | [] => (r, .ok [])
  | (way, body) :: files =>
    match r.loadFile (way.foldl joinPath path) (some body) with
    | .error e => (r, .error e)
    | .ok (r, d) =>
      let (r, rest) := loadFiles r path files
      (r, rest.map (d :: ·))

/-- Files that load one after the other, with the templates that they register. -/
inductive Loads (path : String) :
    Registry → List (List String × Body) → List Registered → Prop
  | nil (r : Registry) : Loads path r [] []
  | cons {r : Registry} {way : List String} {body : Body} {files : List (List String × Body)}
      {t : Registered} {ts : List Registered}
      (first : r.loadFile (way.foldl joinPath path) (some body) = .ok (r.register t, t.definition))
      (rest : Loads path (r.register t) files ts) : Loads path r ((way, body) :: files) (t :: ts)

/-! ### One pass -/

theorem andThen_assoc (l : Loading) (load more : Registry → Loading) :
    andThen (andThen l load) more = andThen l fun r => andThen (load r) more := by
  obtain ⟨r, answer⟩ := l
  cases answer with
  | error e => rfl
  | ok ds =>
    unfold andThen
    dsimp only
    cases load r with
    | mk r' answer' =>
      cases answer' with
      | error e => rfl
      | ok ds' => cases hmore : (more r').2 <;> simp [Except.map, hmore]

theorem nil_andThen (r : Registry) (load : Registry → Loading) : andThen (r, .ok []) load = load r := by
  unfold andThen
  cases h : (load r).2 <;> simp [Except.map, Prod.ext_iff, h]

theorem andThen_nil (l : Loading) : andThen l (fun r => (r, .ok [])) = l := by
  obtain ⟨r, answer⟩ := l
  cases answer <;> simp [andThen, Except.map]

theorem loadFiles_cons (r : Registry) (path : String) (f : List String × Body)
    (files : List (List String × Body)) :
    r.loadFiles path (f :: files) =
      andThen (r.single (r.loadFile (f.1.foldl joinPath path) (some f.2)))
        fun r => r.loadFiles path files := by
  rw [loadFiles]
  cases r.loadFile (f.1.foldl joinPath path) (some f.2) <;> rfl

theorem loadFiles_append (r : Registry) (path : String) (files more : List (List String × Body)) :
    r.loadFiles path (files ++ more) =
      andThen (r.loadFiles path files) fun r => r.loadFiles path more := by
  induction files generalizing r with
  | nil => exact (nil_andThen r fun r => r.loadFiles path more).symm
  | cons f files ih =>
    rw [List.cons_append, loadFiles_cons, loadFiles_cons, andThen_assoc]
    simp only [ih]

/-- Passes over several lists are one pass over all of them. -/
theorem inTurn_loadFiles (path : String) (lists : List (List (List String × Body))) (r : Registry) :
    inTurn (lists.map fun files r => loadFiles r path files) r = r.loadFiles path lists.flatten := by
  induction lists generalizing r with
  | nil => rfl
  | cons files lists ih =>
    rw [List.map_cons, inTurn, List.flatten_cons, loadFiles_append]
    exact congrArg (andThen (r.loadFiles path files)) (funext ih)

/-- Files in a folder are files with one more step on the way. -/
theorem loadFiles_map_cons (r : Registry) (path name : String) (files : List (List String × Body)) :
    r.loadFiles path (files.map fun f => (name :: f.1, f.2)) =
      r.loadFiles (joinPath path name) files := by
  induction files generalizing r with
  | nil => rfl
  | cons f files ih =>
    rw [List.map_cons, loadFiles_cons, loadFiles_cons]
    simp only [ih]
    rfl

/-! ### Entries -/

/-- The files among some that declare templates. -/
def declaring (files : List (List String × Body)) : List (List String × Body) :=
  files.filter fun f => declares f.1

/-- The entries of a folder hold what the folder holds. -/
theorem inNameOrder_loadFiles (path : String) (lists : List (String × List (List String × Body))) :
    inNameOrder (lists.map fun l => (l.1, fun r => loadFiles r path (declaring l.2))) =
      fun r => r.loadFiles path (declaring ((FileTree.inOrder lists).flatMap Prod.snd)) := by
  funext r
  have hlists : declaring ((FileTree.inOrder lists).flatMap Prod.snd) =
      ((FileTree.inOrder lists).map fun l => declaring l.2).flatten := by
    rw [declaring, List.filter_flatMap, List.flatMap_def]
    rfl
  rw [hlists, inNameOrder, FileTree.inOrder_map fun l r => loadFiles r path (declaring l.2),
    ← inTurn_loadFiles, List.map_map, List.map_map]
  rfl

/-- One more step in front of a way does not change what the way leads to. -/
theorem declaring_map_cons (name : String) {files : List (List String × Body)}
    (h : ∀ f ∈ files, f.1 ≠ []) :
    declaring (files.map fun f => (name :: f.1, f.2)) =
      (declaring files).map fun f => (name :: f.1, f.2) := by
  unfold declaring
  rw [List.filter_map]
  refine congrArg _ (List.filter_congr fun f hf => ?_)
  show declares (name :: f.1) = declares f.1
  unfold declares
  obtain ⟨first, way, hway⟩ := List.exists_cons_of_ne_nil (h f hf)
  rw [hway, List.getLast?_cons_cons]

theorem ne_nil_of_mem_files_folder {es : List (String × FileTree)} {f : List String × Body}
    (h : f ∈ (FileTree.folder es).files) : f.1 ≠ [] := by
  obtain ⟨e, -, g, -, rfl⟩ := FileTree.mem_files_folder.1 h
  exact List.cons_ne_nil _ _

mutual

/-- **Loading an entry** is the pass over its files. -/
theorem loadEntry_eq (path name : String) :
    ∀ t : FileTree, loadEntry path name t = fun r =>
      r.loadFiles path (declaring (t.files.map fun f => (name :: f.1, f.2)))
  | .file b => by
    funext r
    have hfile : declaring ((FileTree.files (.file b)).map fun f => (name :: f.1, f.2)) =
        if endings.contains (fileEnding name) then [([name], b)] else [] := by
      rw [FileTree.files, List.map_singleton, declaring, List.filter_singleton, Bool.cond_eq_ite]
      rfl
    rw [hfile, loadEntry]
    split
    · rw [loadFiles_cons]
      exact (andThen_nil _).symm
    · rfl
  | .folder es => by
    funext r
    rw [declaring_map_cons name fun f hf => ne_nil_of_mem_files_folder hf, loadFiles_map_cons,
      loadEntry, loadsOf_eq (joinPath path name) es, inNameOrder_loadFiles, FileTree.files]
termination_by structural t => t

theorem loadsOf_eq (path : String) :
    ∀ es : List (String × FileTree), loadsOf path es =
      (FileTree.filesOfEntries es).map fun l => (l.1, fun r => r.loadFiles path (declaring l.2))
  | [] => rfl
  | (name, t) :: es => by
    rw [loadsOf, loadEntry_eq path name t, loadsOf_eq path es]
    rfl
termination_by structural es => es

end

/-- **Loading a folder** is the pass over its files. -/
theorem loadTree_eq (r : Registry) (path : String) (es : List (String × FileTree)) :
    r.loadTree path (some (.folder es)) =
      r.loadFiles path (declaring (FileTree.folder es).files) := by
  rw [loadTree, loadsOf_eq, inNameOrder_loadFiles, FileTree.files]

/-! ### Up to the first failure -/

/-- A file that loads registers a template and answers with it. -/
theorem exists_of_loadFile {r r' : Registry} {path : String} {body : Option Body}
    {d : TemplateDefinition} (h : r.loadFile path body = .ok (r', d)) :
    ∃ t : Registered, r' = r.register t ∧ d = t.definition := by
  unfold loadFile at h
  obtain ⟨s, -, hload⟩ := Attempt.bind_eq_ok.1 h
  obtain ⟨t, -, ht⟩ := Attempt.bind_eq_ok.1 hload
  cases ht
  exact ⟨t, rfl, rfl⟩

/-- **A pass** goes to the end or up to the first file that fails. -/
theorem loadFiles_cases (r : Registry) (path : String) (files : List (List String × Body)) :
    (∃ ts, Loads path r files ts ∧
      r.loadFiles path files = (ts.foldl register r, .ok (ts.map Registered.definition))) ∨
    ∃ before way body after ts e, files = before ++ (way, body) :: after ∧ Loads path r before ts ∧
      (ts.foldl register r).loadFile (way.foldl joinPath path) (some body) = .error e ∧
      r.loadFiles path files = (ts.foldl register r, .error e) := by
  induction files generalizing r with
  | nil => exact .inl ⟨[], .nil r, rfl⟩
  | cons f files ih =>
    obtain ⟨way, body⟩ := f
    rw [loadFiles_cons]
    cases hfirst : r.loadFile (way.foldl joinPath path) (some body) with
    | error e => exact .inr ⟨[], way, body, files, [], e, rfl, .nil r, hfirst, rfl⟩
    | ok loaded =>
      obtain ⟨t, hr, hd⟩ := exists_of_loadFile hfirst
      obtain rfl : loaded = (r.register t, t.definition) := Prod.ext hr hd
      rcases ih (r.register t) with ⟨ts, hrest, heq⟩ |
        ⟨before, way', body', after, ts, e, rfl, hrest, hfails, heq⟩
      · refine .inl ⟨t :: ts, .cons hfirst hrest, ?_⟩
        simp only [single, andThen, heq]
        rfl
      · refine .inr ⟨(way, body) :: before, way', body', after, t :: ts, e, rfl,
          .cons hfirst hrest, hfails, ?_⟩
        simp only [single, andThen, heq]
        rfl

/-- **The files of a folder** that declare templates are loaded in the order of the names on the way
to them, each one as a file by itself is. If all of them load, the answer is the list of their
templates in this order. If one fails, the answer is why, the files in front of it are registered,
and those behind it are not looked at. -/
theorem loadTree_cases (r : Registry) (path : String) {es : List (String × FileTree)}
    (h : (FileTree.folder es).Proper) :
    ∃ files : List (List String × Body), files.Pairwise (·.1 < ·.1) ∧
      (∀ way body, (way, body) ∈ files ↔
        (FileTree.folder es).find? way = some (.file body) ∧ declares way = true) ∧
      ((∃ ts, Loads path r files ts ∧ r.loadTree path (some (.folder es)) =
        (ts.foldl register r, .ok (ts.map Registered.definition))) ∨
      ∃ before way body after ts e, files = before ++ (way, body) :: after ∧
        Loads path r before ts ∧
        (ts.foldl register r).loadFile (way.foldl joinPath path) (some body) = .error e ∧
        r.loadTree path (some (.folder es)) = (ts.foldl register r, .error e)) := by
  refine ⟨declaring (FileTree.folder es).files, (FileTree.pairwise_files h).filter _, ?_, ?_⟩
  · intro way body
    rw [declaring, List.mem_filter, FileTree.mem_files_iff h]
  · rw [loadTree_eq]
    exact loadFiles_cases r path _

/-- Entries of every kind: a folder named as a file is, a file whose name goes on where that of a folder
ends, and a file whose name is an ending only. -/
def mixed : List (String × FileTree) :=
  [("b.yaml", .folder [("notes.txt", .file (.text "")), ("deep.yml", .file (.text ""))]),
    ("a.yaml", .file (.text "")), ("a", .folder [("x.yaml", .file (.text ""))]),
    (".yaml", .file (.text ""))]

theorem proper_mixed : (FileTree.folder mixed).Proper := by
  refine .folder (by decide) fun e he => ?_
  simp only [mixed, List.mem_cons, List.not_mem_nil, or_false] at he
  obtain rfl | rfl | rfl | rfl := he
  · refine .folder (by decide) fun e he => ?_
    simp only [List.mem_cons, List.not_mem_nil, or_false] at he
    obtain rfl | rfl := he <;> exact .file _
  · exact .file _
  · refine .folder (by decide) fun e he => ?_
    rw [List.mem_singleton.1 he]
    exact .file _
  · exact .file _

example : (declaring (FileTree.folder mixed).files).map Prod.fst =
    [["a", "x.yaml"], ["a.yaml"], ["b.yaml", "deep.yml"]] := by decide +kernel

theorem loadTree_cases_mixed :
    (FileTree.folder mixed).Proper ∧
    ∃ files : List (List String × Body), files.Pairwise (·.1 < ·.1) ∧
      (∀ way body, (way, body) ∈ files ↔
        (FileTree.folder mixed).find? way = some (.file body) ∧ declares way = true) ∧
      ((∃ ts, Loads "templates" empty files ts ∧
        empty.loadTree "templates" (some (.folder mixed)) =
          (ts.foldl register empty, .ok (ts.map Registered.definition))) ∨
      ∃ before way body after ts e, files = before ++ (way, body) :: after ∧
        Loads "templates" empty before ts ∧
        (ts.foldl register empty).loadFile (way.foldl joinPath "templates") (some body) =
          .error e ∧
        empty.loadTree "templates" (some (.folder mixed)) = (ts.foldl register empty, .error e)) :=
  ⟨proper_mixed, loadTree_cases empty "templates" proper_mixed⟩

end SlidePress.Registry
