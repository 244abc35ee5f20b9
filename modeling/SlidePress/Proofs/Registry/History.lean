import Mathlib.Data.List.Forall2
import Mathlib.Data.List.Induction
import Mathlib.Data.List.Nodup
import SlidePress.Proofs.Distinct
import SlidePress.Proofs.Registry.Folders
import SlidePress.Registry.Packaged

/-! # Histories of a registry

Calls that load templates, one after the other, any of which may fail. What a call loads does not
depend on the registry: it comes to declarations, each of which stands or fails by itself, and it
registers those before the first that fails. So the registry after a history is the outcome of
registering the declarations that were loaded, one after the other, and the last one under a name
counts.

**Two maps in step.** The definitions and their compiled schemas are kept in two maps. Every way to
a template brings a schema that was compiled from its own definition (`declared_compiled`,
`Packaged.compiled_eq`), and registering keeps the maps in step (`InStep.register`), so no check
ever runs against the schema of an earlier template. -/

namespace SlidePress

namespace Registry

/-! ### Loading up to a failure -/

/-- The results before the first failure. -/
def succeeding {ε α : Type} : List (Except ε α) → List α
  | .ok a :: rs => a :: succeeding rs
  | .error _ :: _ | [] => []

/-- The definitions that come from some attempts to load templates, if all of them succeed. -/
def outcome (rs : List (Except LoadError Registered)) : Except LoadError (List TemplateDefinition) :=
  (rs.mapM id).map (List.map Registered.definition)

@[simp] theorem outcome_nil : outcome [] = .ok [] := rfl

@[simp] theorem outcome_error (e : LoadError) (rs : List (Except LoadError Registered)) :
    outcome (.error e :: rs) = .error e := rfl

@[simp] theorem outcome_ok (t : Registered) (rs : List (Except LoadError Registered)) :
    outcome (.ok t :: rs) = (outcome rs).map (t.definition :: ·) := by
  unfold outcome
  rw [List.mapM_cons]
  cases rs.mapM id <;> rfl

section

variable (us : List Registered) (e : LoadError) (rest : List (Except LoadError Registered))

theorem succeeding_map_ok : succeeding (us.map (.ok : _ → Except LoadError _)) = us := by
  induction us with
  | nil => rfl
  | cons u us ih => exact congrArg (u :: ·) ih

theorem outcome_map_ok : outcome (us.map .ok) = .ok (us.map Registered.definition) := by
  induction us with
  | nil => rfl
  | cons u us ih =>
    rw [List.map_cons, outcome_ok, ih]
    rfl

theorem succeeding_append_error : succeeding (us.map .ok ++ .error e :: rest) = us := by
  induction us with
  | nil => rfl
  | cons u us ih => exact congrArg (u :: ·) ih

theorem outcome_append_error : outcome (us.map .ok ++ .error e :: rest) = .error e := by
  induction us with
  | nil => rfl
  | cons u us ih =>
    rw [List.map_cons, List.cons_append, outcome_ok, ih]
    rfl

end

/-- Either all of some attempts succeed, or there is a first failure. -/
theorem succeeding_cases {ε α : Type} (rs : List (Except ε α)) :
    (∃ us : List α, rs = us.map .ok) ∨
      ∃ (us : List α) (e : ε) (rest : List (Except ε α)), rs = us.map .ok ++ .error e :: rest := by
  induction rs with
  | nil => exact .inl ⟨[], rfl⟩
  | cons r rs ih =>
    cases r with
    | error e => exact .inr ⟨[], e, rs, rfl⟩
    | ok a =>
      rcases ih with ⟨us, rfl⟩ | ⟨us, e, rest, rfl⟩
      · exact .inl ⟨a :: us, rfl⟩
      · exact .inr ⟨a :: us, e, rest, rfl⟩

/-- The template that a file declares. -/
def declaredIn (path : String) (body : Option Body) : Except LoadError Registered := do
  let s ← (Body.read body).mapError LoadError.fault
  declared path s

theorem loadFile_eq (r : Registry) (path : String) (body : Option Body) :
    r.loadFile path body = (declaredIn path body).map fun t => (r.register t, t.definition) := by
  unfold loadFile declaredIn load
  cases (Body.read body).mapError LoadError.fault with
  | error e => rfl
  | ok s =>
    show (declared path s >>= _) = (declared path s).map _
    cases declared path s <;> rfl

/-- The declarations in some files. -/
def declaredInAll (path : String) (files : List (List String × Body)) :
    List (Except LoadError Registered) :=
  files.map fun f => declaredIn (f.1.foldl joinPath path) (some f.2)

theorem loadFiles_eq (r : Registry) (path : String) (files : List (List String × Body)) :
    r.loadFiles path files =
      ((succeeding (declaredInAll path files)).foldl register r,
        outcome (declaredInAll path files)) := by
  induction files generalizing r with
  | nil => rfl
  | cons f files ih =>
    obtain ⟨way, body⟩ := f
    rw [loadFiles, loadFile_eq]
    unfold declaredInAll
    rw [List.map_cons]
    cases declaredIn (way.foldl joinPath path) (some body) with
    | error e => rfl
    | ok t =>
      simp only [Except.map, succeeding, List.foldl_cons, outcome_ok]
      rw [ih]
      rfl

end Registry

namespace Packaged

/-- A packaged template with its schema compiled. -/
def compiled (d : TemplateDefinition) : Except LoadError Registered :=
  ((Schema.compile (.map d.schema)).mapError LoadError.fault).map (Registered.mk d)

/-- Registers a template unless an earlier one failed. -/
def registerNext (p : Registry × Except LoadError (List TemplateDefinition))
    (d : TemplateDefinition) : Registry × Except LoadError (List TemplateDefinition) :=
  match p.2, Schema.compile (.map d.schema) with
  | .error e, _ => (p.1, .error e)
  | .ok ds, .ok schema => (p.1.register ⟨d, schema⟩, .ok (ds ++ [d]))
  | .ok _, .error f => (p.1, .error (.fault f))

theorem foldl_registerNext_error (r : Registry) (e : LoadError) (ds : List TemplateDefinition) :
    ds.foldl registerNext (r, .error e) = (r, .error e) := by
  induction ds with
  | nil => rfl
  | cons d ds ih => exact ih

theorem foldl_registerNext (r : Registry) (before ds : List TemplateDefinition) :
    ds.foldl registerNext (r, .ok before) =
      ((Registry.succeeding (ds.map compiled)).foldl Registry.register r,
        (Registry.outcome (ds.map compiled)).map (before ++ ·)) := by
  induction ds generalizing r before with
  | nil => simp [Registry.succeeding, Except.map]
  | cons d ds ih =>
    rw [List.foldl_cons, List.map_cons]
    unfold compiled registerNext
    cases Schema.compile (.map d.schema) with
    | error f => exact foldl_registerNext_error r (.fault f) ds
    | ok schema =>
      refine (ih (r.register ⟨d, schema⟩) (before ++ [d])).trans ?_
      show (_, _) = (_, _)
      congr 1
      show _ = (Registry.outcome (.ok ⟨d, schema⟩ :: ds.map compiled)).map (before ++ ·)
      rw [Registry.outcome_ok]
      cases Registry.outcome (ds.map compiled) <;> simp [Except.map]

/-- The packaged templates are registered up to the first whose schema is not well formed. -/
theorem register_eq (r : Registry) :
    register r = ((Registry.succeeding (definitions.map compiled)).foldl Registry.register r,
      Registry.outcome (definitions.map compiled)) := by
  refine (foldl_registerNext r [] definitions).trans ?_
  cases Registry.outcome (definitions.map compiled) <;> rfl

end Packaged

namespace Registry

/-! ### Histories -/

/-- A call that loads templates. Both the built-in and the custom templates may come from a folder;
the packaged ones are the built-in templates when no folder is named for them. -/
inductive LoadCall where
  | text (source s : String)
  | file (path : String) (body : Option Body)
  | folder (path : String) (tree : Option FileTree)
  | packaged

namespace LoadCall

/-- Performs a call. A call for one template that fails leaves the registry alone. -/
def perform (r : Registry) : LoadCall → Registry × Except LoadError (List TemplateDefinition)
  | text source s => one (r.load source s)
  | file path body => one (r.loadFile path body)
  | folder path tree => r.loadTree path tree
  | packaged => Packaged.register r
where
  /-- The call for one template as one for several. -/
  one : Except LoadError (Registry × TemplateDefinition) →
      Registry × Except LoadError (List TemplateDefinition)
    | .ok (r, d) => (r, .ok [d])
    | .error e => (r, .error e)

/-- The declarations that a call comes to, in the order in which it loads them. -/
def attempts : LoadCall → List (Except LoadError Registered)
  | text source s => [declared source s]
  | file path body => [declaredIn path body]
  | folder path (some (.folder es)) =>
    declaredInAll path ((FileTree.folder es).files.filter fun f => declares f.1)
  | folder path _ => [.error (.noFolder path)]
  | packaged => Packaged.definitions.map Packaged.compiled

/-- The templates that a call loads: those before the first that fails. -/
def loaded (c : LoadCall) : List Registered := succeeding c.attempts

/-- What a call answers. -/
def answer (c : LoadCall) : Except LoadError (List TemplateDefinition) := outcome c.attempts

theorem one_map (r : Registry) (d : Except LoadError Registered) :
    perform.one r (d.map fun t => (r.register t, t.definition)) =
      ((succeeding [d]).foldl register r, outcome [d]) := by
  cases d <;> rfl

/-- **One call.** The declarations before the first failure are registered, and nothing else. -/
theorem perform_eq (r : Registry) (c : LoadCall) :
    perform r c = (c.loaded.foldl register r, c.answer) := by
  cases c with
  | text source s =>
    refine Eq.trans ?_ (one_map r (declared source s))
    show perform.one r (r.load source s) = _
    unfold load
    cases declared source s <;> rfl
  | file path body =>
    refine Eq.trans ?_ (one_map r (declaredIn path body))
    rw [perform, loadFile_eq]
  | folder path tree =>
    match tree with
    | some (.folder es) => exact (loadTree_eq r path es).trans (loadFiles_eq r path _)
    | some (.file _) | none => rfl
  | packaged => exact Packaged.register_eq r

/-- A call either registers everything it comes to or what comes before the first failure. -/
theorem perform_cases (r : Registry) (c : LoadCall) :
    (∃ us, c.attempts = List.map .ok us ∧
      c.perform r = (us.foldl register r, .ok (us.map Registered.definition))) ∨
    ∃ us e rest, c.attempts = List.map .ok us ++ .error e :: rest ∧
      c.perform r = (us.foldl register r, .error e) := by
  rw [perform_eq]
  unfold loaded answer
  rcases succeeding_cases c.attempts with ⟨us, h⟩ | ⟨us, e, rest, h⟩
  · exact .inl ⟨us, h, by rw [h, succeeding_map_ok, outcome_map_ok]⟩
  · exact .inr ⟨us, e, rest, h, by rw [h, succeeding_append_error, outcome_append_error]⟩

end LoadCall

/-- Performs calls one after the other, whether or not they fail, with what each of them answers. -/
def run (r : Registry) : List LoadCall → Registry × List (Except LoadError (List TemplateDefinition))
  | [] => (r, [])
  | c :: cs =>
    let (r, a) := c.perform r
    let (r, as) := run r cs
    (r, a :: as)

/-- **A history.** The templates that its calls loaded are registered one after the other. -/
theorem run_eq (r : Registry) (cs : List LoadCall) :
    r.run cs = ((cs.flatMap LoadCall.loaded).foldl register r, cs.map LoadCall.answer) := by
  induction cs generalizing r with
  | nil => rfl
  | cons c cs ih =>
    rw [run, LoadCall.perform_eq]
    simp only [ih, List.flatMap_cons, List.foldl_append, List.map_cons]

/-! ### Two maps in step -/

/-- The schema of a template was compiled from its definition. -/
def Compiled (t : Registered) : Prop := Schema.compile (.map t.definition.schema) = .ok t.schema

/-- Two entries of the maps that belong together: a definition under its own name, and the schema
compiled from it under the same name. -/
structure Matches (d : String × TemplateDefinition) (s : String × Schema) : Prop where
  named : d.1 = d.2.name
  same : s.1 = d.1
  compiled : Schema.compile (.map d.2.schema) = .ok s.2

/-- The two maps of a registry are in step: entry by entry, they belong together. -/
def InStep (r : Registry) : Prop := List.Forall₂ Matches r.templates r.schemas

theorem declared_compiled {source s : String} {t : Registered} (h : declared source s = .ok t) :
    Compiled t := by
  unfold declared at h
  split at h
  · cases h
  · cases h
  · split at h
    · cases h
    · split at h
      · cases h
      · cases h
      · rename_i hs
        cases h
        exact hs

theorem declaredIn_compiled {path : String} {body : Option Body} {t : Registered}
    (h : declaredIn path body = .ok t) : Compiled t := by
  unfold declaredIn at h
  cases hs : (Body.read body).mapError LoadError.fault with
  | error e =>
    rw [hs] at h
    cases h
  | ok s => exact declared_compiled ((Attempt.bind_ok hs _).symm.trans h)

theorem packaged_compiled {d : TemplateDefinition} {t : Registered}
    (h : Packaged.compiled d = .ok t) : Compiled t := by
  unfold Packaged.compiled at h
  cases hs : Schema.compile (.map d.schema) with
  | error f =>
    rw [hs] at h
    cases h
  | ok schema =>
    rw [hs] at h
    cases h
    exact hs

theorem mem_of_mem_succeeding {ε α : Type} {a : α} {rs : List (Except ε α)}
    (h : a ∈ succeeding rs) : .ok a ∈ rs := by
  induction rs with
  | nil => cases h
  | cons r rs ih =>
    cases r with
    | error e => cases h
    | ok b =>
      rcases List.mem_cons.1 h with rfl | h
      · exact List.mem_cons_self
      · exact List.mem_cons_of_mem _ (ih h)

/-- Every way to a template brings a schema that was compiled from its own definition. -/
theorem LoadCall.loaded_compiled {c : LoadCall} {t : Registered} (h : t ∈ c.loaded) :
    Compiled t := by
  have h := mem_of_mem_succeeding h
  match c with
  | .text source s => exact declared_compiled (List.mem_singleton.1 h).symm
  | .file path body => exact declaredIn_compiled (List.mem_singleton.1 h).symm
  | .folder path (some (.folder es)) =>
    obtain ⟨f, -, hf⟩ := List.mem_map.1 h
    exact declaredIn_compiled hf
  | .folder path (some (.file _)) | .folder path none => cases List.mem_singleton.1 h
  | .packaged =>
    obtain ⟨d, -, hd⟩ := List.mem_map.1 h
    exact packaged_compiled hd

namespace InStep

theorem empty : InStep Registry.empty := .nil

/-- Registering a template keeps the maps in step. -/
theorem register {r : Registry} (h : InStep r) {t : Registered} (ht : Compiled t) :
    InStep (r.register t) := by
  obtain ⟨ds, ss⟩ := r
  replace h : List.Forall₂ Matches ds ss := h
  show List.Forall₂ Matches (put _ _ ds) (put _ _ ss)
  induction h with
  | nil => exact .cons ⟨rfl, rfl, ht⟩ .nil
  | cons hds hrest ih =>
    unfold put
    rw [hds.same]
    split
    · exact .cons ⟨rfl, rfl, ht⟩ hrest
    · exact .cons hds ih

theorem foldl {r : Registry} (h : InStep r) {ts : List Registered} (hts : ∀ t ∈ ts, Compiled t) :
    InStep (ts.foldl Registry.register r) := by
  induction ts generalizing r with
  | nil => exact h
  | cons t ts ih =>
    exact ih (h.register (hts t List.mem_cons_self)) fun u hu => hts u (List.mem_cons_of_mem t hu)

/-- Templates are kept under their own names. -/
theorem names_eq {r : Registry} (h : InStep r) : r.names = r.templates.map Prod.fst := by
  obtain ⟨ds, ss⟩ := r
  replace h : List.Forall₂ Matches ds ss := h
  show (ds.map Prod.snd).map TemplateDefinition.name = ds.map Prod.fst
  induction h with
  | nil => rfl
  | cons hds hrest ih => rw [List.map_cons, List.map_cons, List.map_cons, ih, hds.named]

/-- A check runs against the schema of the definition that stands under the name. -/
theorem validate_eq {r : Registry} (h : InStep r) (name : String) (content : Value) :
    r.validate name content = match r.get? name with
      | some d => Schema.validate (.map d.schema) content
      | none => .ok (unknown name) := by
  obtain ⟨ds, ss⟩ := r
  replace h : List.Forall₂ Matches ds ss := h
  unfold validate get?
  induction h with
  | nil => rfl
  | @cons d s ds ss hds hrest ih =>
    simp only [lookup_cons, hds.same]
    by_cases hn : name = d.1
    · simp only [if_pos hn]
      exact (Attempt.bind_ok hds.compiled fun s => s.verdict content).symm
    · simp only [if_neg hn]
      exact ih

end InStep

/-! ### The last declaration counts -/

/-- The last of some templates with a name. -/
def last? (ts : List Registered) (name : String) : Option TemplateDefinition :=
  (ts.reverse.find? fun t => t.definition.name == name).map Registered.definition

theorem last?_append (ts : List Registered) (t : Registered) (name : String) :
    last? (ts ++ [t]) name =
      if name = t.definition.name then some t.definition else last? ts name := by
  unfold last?
  rw [List.reverse_append, List.reverse_singleton, List.singleton_append, List.find?_cons]
  by_cases h : name = t.definition.name
  · rw [if_pos h, beq_iff_eq.2 h.symm]
    rfl
  · rw [if_neg h, beq_false_of_ne (Ne.symm h)]

theorem foldl_register_append (ts : List Registered) (t : Registered) :
    (ts ++ [t]).foldl register empty = (ts.foldl register empty).register t := by
  rw [List.foldl_append, List.foldl_cons, List.foldl_nil]

theorem get?_foldl_register (ts : List Registered) (name : String) :
    (ts.foldl register empty).get? name = last? ts name := by
  induction ts using List.reverseRecOn with
  | nil => rfl
  | append_singleton ts t ih =>
    rw [foldl_register_append, get?_register, last?_append, ih]

theorem keys_put {α : Type} (name : String) (a : α) (es : List (String × α)) :
    (put name a es).map Prod.fst =
      es.map Prod.fst ++ if name ∈ es.map Prod.fst then [] else [name] := by
  induction es with
  | nil => rfl
  | cons e es ih =>
    unfold put
    by_cases h : e.1 = name
    · simp [h]
    · have hmem : name ∈ (e :: es).map Prod.fst ↔ name ∈ es.map Prod.fst := by
        rw [List.map_cons, List.mem_cons]
        exact or_iff_right (Ne.symm h)
      rw [if_neg h, List.map_cons, ih]
      simp only [hmem]
      rfl

/-- The names stand in the order in which they came up first. -/
theorem keys_foldl_register (ts : List Registered) :
    (ts.foldl register empty).templates.map Prod.fst =
      (ts.map fun t => t.definition.name).eraseDups := by
  induction ts using List.reverseRecOn with
  | nil => rfl
  | append_singleton ts t ih =>
    rw [foldl_register_append, List.map_append]
    refine (keys_put _ _ _).trans ?_
    rw [List.map_singleton, eraseDups_append_singleton, ih]
    simp only [List.mem_eraseDups]

theorem nodup_keys_foldl_register (ts : List Registered) :
    ((ts.foldl register empty).templates.map Prod.fst).Nodup := by
  induction ts using List.reverseRecOn with
  | nil => exact List.nodup_nil
  | append_singleton ts t ih =>
    rw [foldl_register_append]
    refine (keys_put _ _ _).symm ▸ ?_
    split
    · rwa [List.append_nil]
    · rename_i h
      exact List.nodup_append'.2 ⟨ih, List.nodup_singleton _, List.disjoint_singleton.2 h⟩

/-- What stands under the keys, in their order, is what one finds under them. -/
theorem map_snd_eq_filterMap {α : Type} {es : List (String × α)} (h : (es.map Prod.fst).Nodup) :
    es.map Prod.snd = (es.map Prod.fst).filterMap (List.lookup · es) := by
  induction es with
  | nil => rfl
  | cons e es ih =>
    obtain ⟨he, hes⟩ := List.nodup_cons.1 h
    have hrest : (es.map Prod.fst).filterMap (List.lookup · (e :: es)) =
        (es.map Prod.fst).filterMap (List.lookup · es) := by
      refine List.filterMap_congr fun k hk => ?_
      have hk' : k ≠ e.1 := fun h => he (h ▸ hk)
      rw [lookup_cons, if_neg hk']
    have hfirst : List.lookup e.1 (e :: es) = some e.2 := by rw [lookup_cons, if_pos rfl]
    rw [List.map_cons, List.map_cons, List.filterMap_cons, hfirst, hrest, ih hes]

/-- **The registry after a history.** It is the outcome of registering the templates that were
loaded, one after the other. The names stand in the order in which they came up first, under each of
them the last template of that name, and a check of content against a template is the check against
the schema in the definition that is registered. A call registers what it loads before the first
failure, whatever is registered already. -/
theorem run_history (cs : List LoadCall) :
    let ts := cs.flatMap LoadCall.loaded
    let r := (empty.run cs).1
    r = ts.foldl register empty ∧
    r.names = (ts.map fun t => t.definition.name).eraseDups ∧
    r.definitions = r.names.filterMap (last? ts) ∧
    r.categories = ((r.names.filterMap (last? ts)).map TemplateDefinition.category).eraseDups ∧
    (∀ name, r.get? name = last? ts name) ∧
    (∀ name content, r.validate name content = match r.get? name with
      | some d => Schema.validate (.map d.schema) content
      | none => .ok (unknown name)) ∧
    (empty.run cs).2 = cs.map LoadCall.answer ∧
    ∀ c : LoadCall,
      (∃ us, c.attempts = List.map .ok us ∧
        c.perform r = (us.foldl register r, .ok (us.map Registered.definition))) ∨
      ∃ us e rest, c.attempts = List.map .ok us ++ .error e :: rest ∧
        c.perform r = (us.foldl register r, .error e) := by
  intro ts r
  have hr : r = ts.foldl register empty := congrArg Prod.fst (run_eq empty cs)
  have hstep : InStep r := hr ▸ InStep.empty.foldl fun t ht => by
    obtain ⟨c, -, ht⟩ := List.mem_flatMap.1 ht
    exact LoadCall.loaded_compiled ht
  have hget (name : String) : r.get? name = last? ts name := hr ▸ get?_foldl_register ts name
  have hdefinitions : r.definitions = r.names.filterMap (last? ts) := by
    rw [hstep.names_eq, ← funext hget]
    exact map_snd_eq_filterMap (hr ▸ nodup_keys_foldl_register ts)
  refine ⟨hr, ?_, hdefinitions, ?_, hget, hstep.validate_eq, congrArg Prod.snd (run_eq empty cs),
    fun c => c.perform_cases r⟩
  · rw [hstep.names_eq, hr]
    exact keys_foldl_register ts
  · rw [← hdefinitions]
    rfl

end Registry

end SlidePress
