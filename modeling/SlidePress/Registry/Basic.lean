import SlidePress.Files
import SlidePress.Registry.Definition
import SlidePress.Schema

/-! # The registry of templates

Templates are registered under their names, each with its schema compiled. A later template takes
the place of an earlier one with the same name, without changing the order of the names. Loading a
folder goes through its entries in the order of their names, through folders in their places, and
stops at the first file that fails; what was registered before stays.

* `Registry.load`, `Registry.loadFile`, `Registry.loadTree`: the ways to a template.
* `Registry.get?`, `Registry.names`, `Registry.categories`: what is registered.
* `Registry.validate`: checks content against the schema of a template.
* `Registry.css`: the style rules of some templates. -/

namespace SlidePress

/-- Why a template could not be loaded. -/
inductive LoadError where
  /-- The text is not well-formed YAML. -/
  | malformed (source : String)
  /-- The data does not declare a template. -/
  | unfit (source : String) (issues : List Issue)
  /-- An expression in the schema is not well formed. -/
  | badPattern (source : String)
  /-- There is no such folder. -/
  | noFolder (path : String)
  | fault (f : Fault)
  deriving DecidableEq, Repr

namespace LoadError

/-- The beginning of the report on a declaration. -/
def invalid (source : String) : String := "Invalid template definition in " ++ source ++ ": "

/-- The report of an error; faults are described by `describe`. -/
def message (describe : Fault → String) : LoadError → String
  | malformed source => invalid source ++ "malformed YAML"
  | unfit source issues => invalid source ++ ", ".intercalate (issues.map Issue.line)
  | badPattern source =>
    invalid source ++ "schema: bad pattern (" ++ describe .malformedPattern ++ ")"
  | noFolder path => "Template directory not found: " ++ path
  | fault f => describe f

/-- The single issues of an error. -/
def details (describe : Fault → String) : LoadError → Option (List String)
  | unfit _ issues => some (issues.map Issue.line)
  | badPattern _ => some [describe .malformedPattern]
  | _ => none

end LoadError

/-- A template with its schema compiled. -/
structure Registered where
  definition : TemplateDefinition
  schema : Schema
  deriving Inhabited

/-- The registered templates, in the order in which their names came up first. The compiled schemas
are kept beside the definitions, in a map of their own. -/
structure Registry where
  /-- The definitions under their names. -/
  templates : List (String × TemplateDefinition)
  /-- The compiled schemas under the names of their templates. -/
  schemas : List (String × Schema)
  deriving Inhabited

namespace Registry

/-- No templates. -/
def empty : Registry := ⟨[], []⟩

/-- Puts something under a name, in the place of what stands there or at the end. -/
def put {α : Type} (name : String) (a : α) : List (String × α) → List (String × α)
  | [] => [(name, a)]
  | e :: es => if e.1 = name then (name, a) :: es else e :: put name a es

/-- Registers a template: its definition, then its schema. -/
def register (r : Registry) (t : Registered) : Registry :=
  { templates := put t.definition.name t.definition r.templates
    schemas := put t.definition.name t.schema r.schemas }

/-- The template with a name. -/
def get? (r : Registry) (name : String) : Option TemplateDefinition := r.templates.lookup name

/-- The templates. -/
def definitions (r : Registry) : List TemplateDefinition := r.templates.map Prod.snd

/-- The names of the templates. -/
def names (r : Registry) : List String := r.definitions.map TemplateDefinition.name

/-- The templates of a category. -/
def byCategory (r : Registry) (category : String) : List TemplateDefinition :=
  r.definitions.filter fun d => d.category == category

/-- The categories, in the order in which they come up first. -/
def categories (r : Registry) : List String :=
  (r.definitions.map TemplateDefinition.category).eraseDups

/-! ### Loading -/

/-- The template that a text declares; `source` says where the text comes from. -/
def declared (source s : String) : Except LoadError Registered :=
  match Yaml.load s with
  | .error .malformedYaml => .error (.malformed source)
  | .error f => .error (.fault f)
  | .ok v =>
    match TemplateDefinition.ofValue v with
    | .error issues => .error (.unfit source issues)
    | .ok d =>
      match Schema.compile (.map d.schema) with
      | .error .malformedPattern => .error (.badPattern source)
      | .error f => .error (.fault f)
      | .ok schema => .ok ⟨d, schema⟩

/-- Loads the template that a text declares. -/
def load (r : Registry) (source s : String) : Except LoadError (Registry × TemplateDefinition) := do
  let t ← declared source s
  return (r.register t, t.definition)

/-- Loads the template that a file declares. -/
def loadFile (r : Registry) (path : String) (body : Option Body) :
    Except LoadError (Registry × TemplateDefinition) := do
  let s ← (Body.read body).mapError LoadError.fault
  r.load path s

/-- The endings of the files that declare templates. -/
def endings : List String := [".yaml", ".yml"]

/-- What loading templates leaves behind, and the templates it has loaded or why it stopped. -/
abbrev Loading := Registry × Except LoadError (List TemplateDefinition)

/-- Loading a single template. -/
def single (r : Registry) : Except LoadError (Registry × TemplateDefinition) → Loading
  | .error e => (r, .error e)
  | .ok (r, d) => (r, .ok [d])

/-- Goes on with loading unless it has stopped. -/
def andThen (l : Loading) (load : Registry → Loading) : Loading :=
  match l with
  | (r, .error e) => (r, .error e)
  | (r, .ok ds) =>
    let (r, rest) := load r
    (r, rest.map (ds ++ ·))

/-- Loads one after the other, up to the first that fails. -/
def inTurn : List (Registry → Loading) → Registry → Loading
  | [], r => (r, .ok [])
  | load :: loads, r => andThen (load r) (inTurn loads)

/-- Loads the entries of a folder in the order of their names. -/
def inNameOrder (loads : List (String × (Registry → Loading))) : Registry → Loading :=
  inTurn ((FileTree.inOrder loads).map Prod.snd)

mutual

/-- Loads an entry of the folder at a path: the entries of a folder, or a file that declares a
template. -/
def loadEntry (path name : String) : FileTree → Registry → Loading
  | .folder es => inNameOrder (loadsOf (joinPath path name) es)
  | .file b => fun r =>
    if endings.contains (fileEnding name) then r.single (r.loadFile (joinPath path name) (some b))
    else (r, .ok [])
termination_by structural t => t

/-- The loading of each entry of the folder at a path, beside the name of the entry. -/
def loadsOf (path : String) : List (String × FileTree) → List (String × (Registry → Loading))
  | [] => []
  | (name, t) :: es => (name, loadEntry path name t) :: loadsOf path es
termination_by structural es => es

end

/-- Loads the files of a folder and of the folders in it that declare templates. -/
def loadTree (r : Registry) (path : String) (tree : Option FileTree) : Loading :=
  match tree with
  | some (.folder es) => inNameOrder (loadsOf path es) r
  | _ => (r, .error (.noFolder path))

/-! ### Using templates -/

/-- The verdict on content for a template that is not there. -/
def unknown (name : String) : Verdict :=
  ⟨false, [ "Template " ++ Text.quoted name ++ " not found"]⟩

/-- Checks content against the compiled schema of a template. -/
def validate (r : Registry) (name : String) (content : Value) : Attempt Verdict :=
  match r.schemas.lookup name with
  | some schema => schema.verdict content
  | none => .ok (unknown name)

/-- Style rules without the empty lines around them. -/
def trimmedCss (css : String) : String :=
  String.ofList (Text.stripBy (· == '\n') css.toList)

/-- The style rules of some templates, each once in the order of first use, with an empty line
between them. -/
def css (r : Registry) (names : List String) : String :=
  "\n\n".intercalate (names.eraseDups.filterMap fun n =>
    match (r.get? n).bind TemplateDefinition.css with
    | some css => if css.isEmpty then none else some (trimmedCss css)
    | none => none)

/-! ### What is registered -/

theorem lookup_cons {α : Type} (key : String) (e : String × α) (es : List (String × α)) :
    (e :: es).lookup key = if key = e.1 then some e.2 else es.lookup key := by
  obtain ⟨name, a⟩ := e
  by_cases h : key = name
  · rw [List.lookup_cons, if_pos h, beq_iff_eq.2 h]
  · rw [List.lookup_cons, if_neg h, beq_false_of_ne h]

theorem lookup_put {α : Type} (name key : String) (a : α) (es : List (String × α)) :
    (put name a es).lookup key = if key = name then some a else es.lookup key := by
  induction es with
  | nil => exact lookup_cons key (name, a) []
  | cons e es ih =>
    unfold put
    split
    · rename_i he
      rw [lookup_cons, lookup_cons, he]
      split <;> rfl
    · rename_i he
      rw [lookup_cons, lookup_cons, ih]
      by_cases hk : key = e.1
      · rw [if_pos hk, if_pos hk, if_neg fun h => he (hk.symm.trans h)]
      · rw [if_neg hk, if_neg hk]

/-- A registered template is found under its name; nothing changes under other names. -/
theorem get?_register (r : Registry) (t : Registered) (name : String) :
    (r.register t).get? name =
      if name = t.definition.name then some t.definition else r.get? name :=
  lookup_put t.definition.name name t.definition r.templates

end Registry

end SlidePress
