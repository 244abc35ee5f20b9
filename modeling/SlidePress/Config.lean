import SlidePress.Files
import SlidePress.Text.Case
import SlidePress.Value.Text
import SlidePress.Yaml.Data

/-! # Configuration

The settings of a compilation, by section. A configuration is read from a mapping whose keys may be
written with underscores or with inner capitals; settings that are left out have their defaults,
and most are taken as they come: what they are used for decides whether they fit. Only the author
limit, the number of slides at a time and the log level are checked.

* `Config.ofValue`: the configuration in some data.
* `Config.toValue`: the data of a configuration, with underscores in its keys.
* `Config.locate`: the configuration file of a folder or the nearest folder around it.
* `Config.load`: a configuration file with overrides from the environment. -/

namespace SlidePress

/-- How urgent a message has to be for it to be logged. -/
inductive LogLevel where
  | debug
  | info
  | warning
  | error
  | critical
  deriving DecidableEq, Repr, Inhabited

namespace LogLevel

/-- The written form of a level. -/
def name : LogLevel → String
  | debug => "DEBUG"
  | info => "INFO"
  | warning => "WARNING"
  | error => "ERROR"
  | critical => "CRITICAL"

/-- The levels, least urgent first. -/
def all : List LogLevel := [debug, info, warning, error, critical]

/-- The level with a given written form. -/
def ofName? (s : String) : Option LogLevel := all.find? fun l => l.name == s

theorem ofName?_name (l : LogLevel) : ofName? l.name = some l := by
  cases l <;> rfl

/-- The names that messages of a program as a whole may be filtered by, with their ranks. -/
def ranks : List (String × Nat) :=
  [("NOTSET", 0), ("DEBUG", 10), ("INFO", 20), ("WARN", 30), ("WARNING", 30), ("ERROR", 40),
    ("CRITICAL", 50), ("FATAL", 50)]

/-- The rank of a level given by name in any case; other names count as `INFO`. -/
def rankOf (s : String) : Nat := (ranks.lookup (Text.upper s)).getD 20

/-- The form of a logged line. -/
def lineFormat : String := "%(asctime)s %(name)s %(levelname)s: %(message)s"

end LogLevel

/-- Why a configuration is refused. -/
inductive ConfigError where
  /-- The author limit is below one. -/
  | authorLimit (v : Value)
  /-- There is no such log level. -/
  | logLevel (v : Value)
  /-- The file does not hold a mapping. -/
  | notMapping (path : String)
  /-- The data could not be read or used. -/
  | fault (f : Fault)
  deriving Inhabited

namespace ConfigError

/-- The report of an error; faults are described by `describe`. -/
def message (describe : Fault → String) : ConfigError → String
  | authorLimit v => "max_authors must be >= 1, got " ++ v.text
  | logLevel v => "Invalid log level " ++ v.literal ++ ", must be one of " ++
      (Value.tuple (LogLevel.all.map fun l => .str l.name)).literal
  | notMapping path => "Config file " ++ path ++ " must contain a mapping"
  | fault f => describe f

end ConfigError

/-- Folders of templates; without a folder the packaged templates are the built-in ones. -/
structure TemplateSettings where
  builtin : Value
  custom : Value
  deriving Inhabited

/-- How citations are written. -/
structure CitationSettings where
  maxAuthors : Value
  etAl : Value
  etAlJa : Value
  authorSep : Value
  identifierSep : Value
  deriving Inhabited

/-- How the document is written. -/
structure OutputSettings where
  includeTheme : Value
  maxParallel : Value
  deriving Inhabited

/-- The settings of a compilation. -/
structure Config where
  templates : TemplateSettings
  iconRegistry : Value
  referencesEnabled : Value
  citations : CitationSettings
  output : OutputSettings
  logLevel : LogLevel
  deriving Inhabited

/-- Two authors are named before the rest is summed up. -/
def CitationSettings.default : CitationSettings :=
  ⟨.int 2, .str "et al.", .str "ほか", .str ", ", .str "; "⟩

/-- Packaged templates, no icons, references on, one slide at a time. -/
def Config.default : Config :=
  ⟨⟨.null, .null⟩, .null, .bool true, CitationSettings.default, ⟨.bool true, .int 1⟩, .info⟩

namespace Config

/-! ### Keys -/

/-- An underscore in front of every capital letter but the first character. -/
def splitCapitals : List Char → List Char
  | [] => []
  | c :: r => c :: r.flatMap fun a => if 'A' ≤ a ∧ a ≤ 'Z' then ['_', a] else [a]

/-- A key in small letters with underscores between its words. -/
def snakeKey (s : String) : String := Text.lower (String.ofList (splitCapitals s.toList))

/-- A key of a mapping; only texts are respelled. -/
def snake : Value → Value
  | .str s => .str (snakeKey s)
  | v => v

mutual

/-- A mapping with its keys respelled, and those of the mappings directly inside. -/
def snakeKeys : Value → Value
  | .map es => .map (Entries.ofPairs (snakeEntries es))
  | v => v
termination_by structural v => v

/-- Entries with their keys respelled. -/
def snakeEntries : List (Value × Value) → List (Value × Value)
  | [] => []
  | (k, v) :: es => (snake k, snakeKeys v) :: snakeEntries es
termination_by structural v => v

end

/-! ### Reading -/

/-- A value, or an empty mapping in its place if it counts as false. -/
def orEmpty (v : Value) : Value := if v.truthy then v else .map []

/-- The entries of a section. -/
def entriesOf (v : Value) : Except ConfigError Entries :=
  match orEmpty v with
  | .map es => .ok es
  | _ => .error (.fault .noAttribute)

/-- The entries of a whole configuration. -/
def topEntries (v : Value) : Except ConfigError Entries :=
  match snakeKeys (orEmpty v) with
  | .map es => .ok es
  | .list xs =>
    if xs.any fun x => ["templates", "icons", "references", "output", "logging"].any fun n =>
      x.same (.str n)
    then .error (.fault .wrongType) else .ok []
  | .str s =>
    if ["templates", "icons", "references", "output", "logging"].any fun n =>
      Text.contains n.toList s.toList
    then .error (.fault .wrongType) else .ok []
  | _ => .error (.fault .wrongType)

/-- A setting, or its default where it is left out. -/
def setting (es : Entries) (name : String) (default : Value) : Value :=
  (es.get? name).getD default

/-- Whether one value is a number less than another; other values have no order here. -/
def below (a b : Value) : Except ConfigError Bool :=
  match a.numeric?, b.numeric? with
  | some m, some n => .ok (m.compare n == some .lt)
  | _, _ => .error (.fault .wrongType)

/-- A log level in any case. -/
def levelOf (v : Value) : Except ConfigError LogLevel :=
  match v with
  | .str s =>
    match LogLevel.ofName? (Text.upper s) with
    | some l => .ok l
    | none => .error (.logLevel (.str (Text.upper s)))
  | .bytes bs => .error (.logLevel (.bytes (bs.map fun b =>
      if 97 ≤ b.toNat ∧ b.toNat ≤ 122 then b - 32 else b)))
  | _ => .error (.fault .noAttribute)

/-- Checks the author limit. -/
def checkLimit (c : CitationSettings) : Except ConfigError CitationSettings := do
  if ← below c.maxAuthors (.int 1) then .error (.authorLimit c.maxAuthors) else .ok c

/-- Reads the section on the form of citations. -/
def citationsOf (v : Value) : Except ConfigError CitationSettings := do
  let es ← entriesOf v
  let d := CitationSettings.default
  checkLimit
    ⟨setting es "max_authors" d.maxAuthors, setting es "et_al" d.etAl,
      setting es "et_al_ja" d.etAlJa, setting es "author_sep" d.authorSep,
      setting es "identifier_sep" d.identifierSep⟩

/-- The number of slides at a time is at least one. -/
def atLeastOne (v : Value) : Except ConfigError Value := do
  if ← below (.int 1) v then .ok v else .ok (.int 1)

/-- Reads one section, if it is there. -/
def part {α : Type} (es : Entries) (name : String) (default : α)
    (read : Entries → Except ConfigError α) : Except ConfigError α :=
  match es.get? name with
  | some v => do read (← entriesOf v)
  | none => .ok default

/-- The configuration in some data. -/
def ofValue (v : Value) : Except ConfigError Config := do
  let es ← topEntries v
  let d := Config.default
  let templates ← part es "templates" d.templates fun s =>
    .ok ⟨setting s "builtin" .null, setting s "custom" .null⟩
  let icons ← part es "icons" d.iconRegistry fun s => .ok (setting s "registry" .null)
  let (enabled, citations) ← part es "references" (d.referencesEnabled, d.citations) fun s => do
    let format ← citationsOf (s.getD "format")
    return (setting s "enabled" (.bool true), format)
  let output ← part es "output" d.output fun s => do
    let limit ← atLeastOne (setting s "max_parallel" (.int 1))
    return ⟨setting s "include_theme" (.bool true), limit⟩
  let level ← part es "logging" d.logLevel fun s => levelOf (setting s "level" (.str "INFO"))
  return ⟨templates, icons, enabled, citations, output, level⟩

/-! ### Writing -/

/-- The data of the section on the form of citations. -/
def citationsValue (c : CitationSettings) : Value :=
  .map (Entries.ofNames [("max_authors", c.maxAuthors), ("et_al", c.etAl),
    ("et_al_ja", c.etAlJa), ("author_sep", c.authorSep), ("identifier_sep", c.identifierSep)])

/-- The data of a configuration. -/
def toValue (c : Config) : Value :=
  .map (Entries.ofNames
    [("templates", .map (Entries.ofNames
        [("builtin", c.templates.builtin), ("custom", c.templates.custom)])),
      ("icons", .map (Entries.ofNames [("registry", c.iconRegistry)])),
      ("references", .map (Entries.ofNames
        [("enabled", c.referencesEnabled), ("format", citationsValue c.citations)])),
      ("output", .map (Entries.ofNames
        [("include_theme", c.output.includeTheme), ("max_parallel", c.output.maxParallel)])),
      ("logging", .map (Entries.ofNames [("level", .str c.logLevel.name)]))])

/-! ### Files and environment -/

/-- The names a configuration file may have, the preferred one first. -/
def fileNames : List String := ["marpdeck.yaml", "marpdeck.yml", ".marpdeck.yaml"]

/-- A way through folders in which each step back cancels the step before; the result is reversed. -/
def resolveFrom (back : List String) : List String → List String
  | [] => back
  | ".." :: way => resolveFrom back.tail way
  | name :: way => resolveFrom (name :: back) way

/-- The configuration file of a folder, given by its steps in reverse, or of the nearest folder
around it. -/
def locateFrom (t : FileTree) : List String → Option (List String)
  | [] => (fileNames.find? fun n => t.isFile [n]).map fun n => [n]
  | name :: outer =>
    let way := (name :: outer).reverse
    match fileNames.find? fun n => t.isFile (way ++ [n]) with
    | some n => some (way ++ [n])
    | none => locateFrom t outer

/-- The configuration file of a folder or of the nearest folder around it. -/
def locate (t : FileTree) (way : List String) : Option (List String) :=
  locateFrom t (resolveFrom [] way)

/-- The words that switch references on, in lower case. -/
def onWords : List String := ["1", "true", "yes", "on"]

/-- The value of a variable of the environment; an empty one counts as missing. -/
def overriding? (env : List (String × String)) (name : String) : Option String :=
  (env.lookup name).filter fun s => !s.isEmpty

/-- A configuration with the settings that the environment overrides. -/
def withEnvironment (env : List (String × String)) (c : Config) : Except ConfigError Config := do
  let c := match overriding? env "MARPDECK_TEMPLATES_CUSTOM" with
    | some s => { c with templates := { c.templates with custom := .str s } }
    | none => c
  let c := match overriding? env "MARPDECK_REFERENCES_ENABLED" with
    | some s => { c with referencesEnabled := .bool (onWords.contains (Text.lower s)) }
    | none => c
  match overriding? env "MARPDECK_LOG_LEVEL" with
  | some s => return { c with logLevel := ← levelOf (.str s) }
  | none => return c

/-- The configuration in the text of a file. -/
def ofText (path s : String) : Except ConfigError Config :=
  match Yaml.load s with
  | .error f => .error (.fault f)
  | .ok v =>
    match orEmpty v with
    | .map es => ofValue (.map es)
    | _ => .error (.notMapping path)

/-- The configuration in a file, if there is one, with overrides from the environment. -/
def load (path : String) (body : Option Body) (env : List (String × String)) :
    Except ConfigError Config := do
  let c ← match body with
    | none => .ok Config.default
    | some b =>
      match Body.read (some b) with
      | .ok s => ofText path s
      | .error f => .error (.fault f)
  withEnvironment env c

end Config

end SlidePress
