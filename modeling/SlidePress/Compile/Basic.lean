import SlidePress.Compile.Error
import SlidePress.Compile.References
import SlidePress.Layout.Deck
import SlidePress.Presentation
import SlidePress.Registry.Packaged

/-! # Compiling decks

A compiler is set up from a configuration: it loads the templates and the registry of icons. It then
compiles any number of decks, each for itself. A deck is read, its citations are collected and its
references looked up, its bibliographies are filled in, its slides are laid out, and the document is
written. Set-up that fails leaves what was loaded before.

* `Compiler.setUp`: a compiler for a configuration.
* `Compiler.compileText`, `Compiler.compileFile`: compiling a deck. -/

namespace SlidePress

/-- What paths lead to. -/
structure Disk where
  folder : String → Option FileTree
  file : String → Option Body

/-- Where the markup of icons comes from. -/
abbrev IconResolver := IconRequest → Ending IconError String

/-- A registry of icons as a resolver, which has no loader. -/
def IconRegistry.resolver (r : IconRegistry) : IconResolver := fun i =>
  .ofExcept (r.render none i.name i.options)

/-- What decks are compiled with. -/
structure Compiler where
  config : Config
  templates : Registry
  icon : IconResolver
  source : ReferenceSource

/-- A compiled deck. -/
structure Compilation where
  output : String
  /-- The names of the cited references, in the order of first use. -/
  citations : List String
  warnings : List String
  slideCount : Nat
  deriving DecidableEq, Repr, Inhabited

/-- What came of compiling a deck: the warnings, the calls, and how it ended. -/
structure Report where
  warnings : List String
  calls : List (Nat × Call)
  ending : Ending CompileError Compilation

namespace Compiler

/-! ### Setting up -/

/-- A path in a configuration. -/
def pathOf (v : Value) : Attempt String := Attempt.ofOption .wrongType v.text?

/-- A folder of templates as a cause sees it. -/
def loadFolder (disk : Disk) (r : Registry) (path : Value) :
    Registry × Except Cause (List TemplateDefinition) :=
  match pathOf path with
  | .error f => (r, .error (.fault f))
  | .ok p =>
    let (r, loaded) := r.loadTree p (disk.folder p)
    (r, loaded.mapError Cause.load)

/-- The built-in templates: the packaged ones unless the configuration names a folder. -/
def loadBuiltin (disk : Disk) (c : Config) : Registry × Except Cause (List TemplateDefinition) :=
  if c.templates.builtin.truthy then loadFolder disk Registry.empty c.templates.builtin
  else
    let (r, loaded) := Packaged.register Registry.empty
    (r, loaded.mapError Cause.load)

/-- Further templates, if the configuration names a folder of them. -/
def loadCustom (disk : Disk) (c : Config) (r : Registry) :
    Registry × Except Cause (List TemplateDefinition) :=
  if c.templates.custom.truthy then loadFolder disk r c.templates.custom else (r, .ok [])

/-- All templates; custom ones are loaded only if the built-in ones could be. -/
def loadTemplates (disk : Disk) (c : Config) : Registry × Except Cause Unit :=
  match loadBuiltin disk c with
  | (r, .error e) => (r, .error e)
  | (r, .ok _) =>
    let (r, loaded) := loadCustom disk c r
    (r, loaded.map fun _ => ())

/-- The registry of icons; without one in the configuration there are no icons. -/
def loadIcons (disk : Disk) (c : Config) : Except Cause IconRegistry :=
  if c.iconRegistry.truthy then do
    let p ← (pathOf c.iconRegistry).mapError Cause.fault
    (IconRegistry.ofFile (disk.file p)).mapError Cause.fault
  else .ok IconRegistry.empty

/-- A compiler for a configuration, with the error of its set-up if it failed. A resolver that is
given takes the place of the registry of icons. -/
def setUp (disk : Disk) (c : Config) (icon : Option IconResolver) (source : ReferenceSource) :
    Compiler × Except CompileError Unit :=
  let made (r : Registry) (icons : IconRegistry) : Compiler :=
    ⟨c, r, icon.getD icons.resolver, source⟩
  match loadTemplates disk c with
  | (r, .error e) => (made r IconRegistry.empty, .error (.stage .setUp e))
  | (r, .ok _) =>
    match loadIcons disk c with
    | .error e => (made r IconRegistry.empty, .error (.stage .setUp e))
    | .ok icons => (made r icons, .ok ())

/-! ### Compiling -/

/-- How citations are written by a configuration. -/
def style (c : Config) : CitationStyle :=
  { CitationStyle.default with
    maxAuthors := c.citations.maxAuthors
    etAl := c.citations.etAl.text
    etAlJa := c.citations.etAlJa.text
    authorSep := c.citations.authorSep.text
    identifierSep := c.citations.identifierSep.text }

/-- What the slides of a deck are laid out with. -/
def press (c : Compiler) : Press := Press.of c.templates c.icon (style c.config) c.source

/-- How many slides are laid out at a time; a number that is not whole is no limit. -/
def limit (c : Config) (d : Deck) : Nat :=
  match c.output.maxParallel with
  | .int n => n.toNat
  | .float x =>
    match Number.isWhole x, Number.truncate? x with
    | true, some n => n.toNat
    | _, _ => max 2 d.slides.length
  | _ => 1

/-- The notes of the slides that have any, by number. -/
def notes (d : Deck) : List (Nat × String) :=
  (d.slides.mapIdx fun i s => (i, s.notes.getD "")).filter fun p => !p.2.isEmpty

/-- What the document of a deck is rendered with. -/
def renderOptions (c : Compiler) (d : Deck) : RenderOptions :=
  ⟨c.config.output.includeTheme.truthy, notes d, [],
    some (c.templates.css (d.slides.map Slide.template))⟩

/-- The end of a compilation with the bodies of its slides. -/
def finish (c : Compiler) (ids warnings : List String) (d : Deck) :
    Ending SlideError (List String) → Ending CompileError Compilation
  | .ok bodies =>
    .ok ⟨Document.render bodies d.info (c.renderOptions d), ids, warnings, d.slides.length⟩
  | .error (.failed e) => .error (.failed (.stage .transform (.slide e)))
  | .error .endless => .error .endless

/-- Compiles a deck; faults are described by `describe`. -/
def compile (describe : Fault → String) (c : Compiler) (d : Deck) : Report :=
  if d.slides.any fun s => Value.nestsEntries s.content then
    ⟨[], [], .error (.failed .endlessContent)⟩
  else
    let ids := Citation.ids d.citations
    let first := d.referenceWarnings describe c.config c.source ids
    let (second, d) := d.withBibliographies describe c.config c.source ids
    let warnings := first ++ second
    let course := c.press.layOutDeck (limit c.config d) d
    ⟨warnings, course.calls, c.finish ids warnings d course.ending⟩

/-- Compiles a deck, if it could be read. -/
def compileRead (describe : Fault → String) (c : Compiler) (fromFile : Bool) :
    Except DeckError Deck → Report
  | .ok d => c.compile describe d
  | .error e => ⟨[], [], .error (.failed (.stage (.parse fromFile) (.deck e)))⟩

/-- Compiles the deck of a text; faults are described by `describe`. -/
def compileText (describe : Fault → String) (c : Compiler) (s : String) : Report :=
  c.compileRead describe false (Deck.ofText s)

/-- Compiles the deck of a file; faults are described by `describe`. -/
def compileFile (describe : Fault → String) (c : Compiler) (path : String) (body : Option Body) :
    Report :=
  c.compileRead describe true (Deck.textInFile path body >>= Deck.ofText)

/-- A compilation that succeeds has the warnings that were collected on the way. -/
theorem warnings_of_compile (describe : Fault → String) (c : Compiler) (d : Deck)
    (r : Compilation) (h : (c.compile describe d).ending = .ok r) :
    r.warnings = (c.compile describe d).warnings := by
  unfold compile at h ⊢
  split at h
  · cases h
  · rename_i hn
    rw [if_neg hn]
    simp only [finish] at h ⊢
    split at h
    · cases h; rfl
    · cases h
    · cases h

end Compiler

end SlidePress
