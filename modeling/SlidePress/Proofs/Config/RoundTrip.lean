import SlidePress.Proofs.Attempt
import SlidePress.Proofs.Config.Spelling

/-! # Configurations that are written and read

The data of a configuration is written in some manner, each of its keys with underscores or with inner
capitals, and any of them left out. What is read from it is the configuration with its own settings
where no key on the way to them is left out, and with the defaults elsewhere (`ofValue_written`). The
author limit, the number of slides at a time and the level are checked on the way; each is either the
configuration's own or a default, and both pass. -/

namespace SlidePress.Config

/-! ### Settings -/

namespace Manner

/-- Whether no key on a way is left out. -/
def keeps : Manner → List String → Bool
  | _, [] => true
  | m, key :: way => !m.omits [key] && (m.under key).keeps way

/-- A setting, given by the keys on the way to it, or its default if one of them is left out. -/
def pick {α : Type} (m : Manner) (way : List String) (own default : α) : α :=
  if m.keeps way then own else default

variable {α : Type} {m : Manner}

theorem pick_nil (own default : α) : m.pick [] own default = own := rfl

theorem pick_cons (key : String) (way : List String) (own default : α) :
    m.pick (key :: way) own default =
      if m.omits [key] then default else (m.under key).pick way own default := by
  cases h : m.omits [key] <;> simp [pick, keeps, h]

theorem keeps_of_forall {m : Manner} (h : ∀ way, m.omits way = false) (way : List String) :
    m.keeps way = true := by
  induction way generalizing m with
  | nil => rfl
  | cons key way ih => rw [keeps, h, ih fun way => h (key :: way)]; rfl

/-- What holds of a setting and of its default holds of the one that is picked. -/
theorem pick_of_both {P : α → Prop} {way : List String} {own default : α} (hown : P own)
    (hdefault : P default) : P (m.pick way own default) := by
  unfold pick
  split_ifs
  · exact hown
  · exact hdefault

end Manner

/-- A configuration with those of its settings that are kept, and the defaults of the others. -/
def kept (m : Manner) (c : Config) : Config where
  templates := ⟨m.pick ["templates", "builtin"] c.templates.builtin default.templates.builtin,
    m.pick ["templates", "custom"] c.templates.custom default.templates.custom⟩
  iconRegistry := m.pick ["icons", "registry"] c.iconRegistry default.iconRegistry
  referencesEnabled :=
    m.pick ["references", "enabled"] c.referencesEnabled default.referencesEnabled
  citations := ⟨
    m.pick ["references", "format", "max_authors"] c.citations.maxAuthors
      default.citations.maxAuthors,
    m.pick ["references", "format", "et_al"] c.citations.etAl default.citations.etAl,
    m.pick ["references", "format", "et_al_ja"] c.citations.etAlJa default.citations.etAlJa,
    m.pick ["references", "format", "author_sep"] c.citations.authorSep
      default.citations.authorSep,
    m.pick ["references", "format", "identifier_sep"] c.citations.identifierSep
      default.citations.identifierSep⟩
  output := ⟨m.pick ["output", "include_theme"] c.output.includeTheme default.output.includeTheme,
    m.pick ["output", "max_parallel"] c.output.maxParallel default.output.maxParallel⟩
  logLevel := m.pick ["logging", "level"] c.logLevel default.logLevel

/-- An integer from one on. -/
def IsLimit (v : Value) : Prop := ∃ n : Int, 1 ≤ n ∧ v = .int n

/-- A configuration with limits from one on and no mappings for its other settings. -/
structure Proper (c : Config) : Prop where
  authors : IsLimit c.citations.maxAuthors
  parallel : IsLimit c.output.maxParallel
  plain : ∀ v ∈ [c.templates.builtin, c.templates.custom, c.iconRegistry, c.referencesEnabled,
    c.citations.etAl, c.citations.etAlJa, c.citations.authorSep, c.citations.identifierSep,
    c.output.includeTheme], ∀ es, v ≠ .map es

/-! ### Checks -/

theorem below_int (a b : Int) : below (.int a) (.int b) = .ok (decide (a < b)) := by
  have hlt : (some (compare a b) == some Ordering.lt) = decide (a < b) :=
    Bool.eq_iff_iff.2 (by simp [compare_lt_iff_lt])
  exact congrArg Except.ok hlt

theorem IsLimit.ne_map {v : Value} (h : IsLimit v) (es : Entries) : v ≠ .map es := by
  obtain ⟨n, -, rfl⟩ := h
  exact (nomatch ·)

theorem checkLimit_eq {c : CitationSettings} (h : IsLimit c.maxAuthors) : checkLimit c = .ok c := by
  obtain ⟨n, hn, hc⟩ := h
  rw [checkLimit, hc, Attempt.bind_ok (below_int n 1), if_neg (by simpa using hn)]

theorem atLeastOne_eq {v : Value} (h : IsLimit v) : atLeastOne v = .ok v := by
  obtain ⟨n, hn, rfl⟩ := h
  rw [atLeastOne, Attempt.bind_ok (below_int 1 n)]
  split_ifs with hlt
  · rfl
  · obtain rfl : n = 1 := by simp at hlt; omega
    rfl

theorem levelOf_name (l : LogLevel) : levelOf (.str l.name) = .ok l := by
  have hupper : Text.upper l.name = l.name := by cases l <;> decide
  rw [levelOf, hupper, LogLevel.ofName?_name]

/-! ### Sections -/

theorem orEmpty_map (es : Entries) : orEmpty (.map es) = .map es := by
  cases es <;> rfl

theorem entriesOf_map (es : Entries) : entriesOf (.map es) = .ok es := by
  rw [entriesOf, orEmpty_map]

section Sections

variable {m : Manner} {ps qs : List (String × Value)} {name : String}

/-- What is found in data that is written plainly. -/
theorem get?_plain (m : Manner) (ps : List (String × Value)) (name : String) :
    Entries.get? (Entries.ofNames (m.plain.names ps)) name =
      if m.omits [name] then none else (ps.lookup name).map (m.under name).plain.written := by
  rw [Entries.get?_ofNames, Manner.lookup_names]

theorem setting_plain {v : Value} (h : ps.lookup name = some v) (hv : ∀ es, v ≠ .map es)
    (default : Value) :
    setting (Entries.ofNames (m.plain.names ps)) name default = m.pick [name] v default := by
  rw [setting, get?_plain, h, Option.map_some, Manner.written_of_plain hv, Manner.pick_cons,
    Manner.pick_nil]
  split_ifs <;> rfl

theorem part_plain {α : Type} (h : ps.lookup name = some (.map (Entries.ofNames qs))) (default : α)
    (read : Entries → Except ConfigError α) :
    part (Entries.ofNames (m.plain.names ps)) name default read =
      if m.omits [name] then .ok default
      else read (Entries.ofNames ((m.under name).plain.names qs)) := by
  rw [part, get?_plain, h, Option.map_some, Manner.written_ofNames]
  split_ifs
  · rfl
  · exact Attempt.bind_ok (entriesOf_map _) read

end Sections

/-- A mapping has different names for its keys, also inside, if these are and its values have. -/
theorem named_ofNames {ps : List (String × Value)} (keys : List String)
    (hkeys : ps.map Prod.fst = keys) (hnames : keys.Nodup ∧ ∀ key ∈ keys, isName key = true)
    (h : ∀ p ∈ ps, Named p.2) : Named (.map (Entries.ofNames ps)) := by
  subst hkeys
  exact .names hnames.1 (fun p hp => hnames.2 p.1 (List.mem_map_of_mem hp)) h

/-! ### Configurations -/

/-- The named sections of the data of a configuration. -/
def sections (c : Config) : List (String × Value) :=
  [("templates", .map (Entries.ofNames
      [("builtin", c.templates.builtin), ("custom", c.templates.custom)])),
    ("icons", .map (Entries.ofNames [("registry", c.iconRegistry)])),
    ("references", .map (Entries.ofNames
      [("enabled", c.referencesEnabled), ("format", citationsValue c.citations)])),
    ("output", .map (Entries.ofNames
      [("include_theme", c.output.includeTheme), ("max_parallel", c.output.maxParallel)])),
    ("logging", .map (Entries.ofNames [("level", .str c.logLevel.name)]))]

variable {c : Config}

theorem named_toValue (h : c.Proper) : Named c.toValue := by
  have hplain := h.plain
  simp only [List.forall_mem_cons] at hplain
  obtain ⟨hbuiltin, hcustom, hregistry, henabled, hetAl, hetAlJa, hauthorSep, hidentifierSep,
    htheme, -⟩ := hplain
  have hformat : Named (citationsValue c.citations) := by
    refine named_ofNames ["max_authors", "et_al", "et_al_ja", "author_sep", "identifier_sep"] rfl
      (by decide) ?_
    simp only [List.forall_mem_cons]
    exact ⟨.plain h.authors.ne_map, .plain hetAl, .plain hetAlJa, .plain hauthorSep,
      .plain hidentifierSep, List.forall_mem_nil _⟩
  refine @named_ofNames c.sections ["templates", "icons", "references", "output", "logging"]
    rfl (by decide) ?_
  simp only [sections, List.forall_mem_cons]
  refine ⟨named_ofNames ["builtin", "custom"] rfl (by decide) ?_,
    named_ofNames ["registry"] rfl (by decide) ?_,
    named_ofNames ["enabled", "format"] rfl (by decide) ?_,
    named_ofNames ["include_theme", "max_parallel"] rfl (by decide) ?_,
    named_ofNames ["level"] rfl (by decide) ?_, List.forall_mem_nil _⟩ <;>
    simp only [List.forall_mem_cons]
  · exact ⟨.plain hbuiltin, .plain hcustom, List.forall_mem_nil _⟩
  · exact ⟨.plain hregistry, List.forall_mem_nil _⟩
  · exact ⟨.plain henabled, hformat, List.forall_mem_nil _⟩
  · exact ⟨.plain htheme, .plain h.parallel.ne_map, List.forall_mem_nil _⟩
  · exact ⟨.plain fun es => (nomatch ·), List.forall_mem_nil _⟩

/-- The sections that are read are those that are written, without what is left out. -/
theorem topEntries_written (h : c.Proper) (m : Manner) :
    topEntries (m.written c.toValue) = .ok (Entries.ofNames (m.plain.names c.sections)) := by
  have hvalue : c.toValue = .map (Entries.ofNames c.sections) := rfl
  have hread : snakeKeys (m.written c.toValue) =
      .map (Entries.ofNames (m.plain.names c.sections)) := by
    rw [Manner.snakeKeys_written (named_toValue h), hvalue, Manner.written_ofNames]
  have hmap : orEmpty (m.written c.toValue) = m.written c.toValue := by
    rw [hvalue, Manner.written_ofNames, orEmpty_map]
  rw [topEntries, hmap, hread]

section Parts

variable (h : c.Proper) (m : Manner)

include h

theorem templates_written :
    part (Entries.ofNames (m.plain.names c.sections)) "templates" default.templates
      (fun s => .ok ⟨setting s "builtin" .null, setting s "custom" .null⟩) =
        .ok (c.kept m).templates := by
  rw [part_plain rfl, setting_plain rfl (h.plain c.templates.builtin (by simp)),
    setting_plain rfl (h.plain c.templates.custom (by simp))]
  simp only [kept, Manner.pick_cons "templates"]
  split_ifs <;> rfl

theorem icons_written :
    part (Entries.ofNames (m.plain.names c.sections)) "icons" default.iconRegistry
      (fun s => .ok (setting s "registry" .null)) = .ok (c.kept m).iconRegistry := by
  rw [part_plain rfl, setting_plain rfl (h.plain c.iconRegistry (by simp))]
  simp only [kept, Manner.pick_cons "icons"]
  split_ifs <;> rfl

/-- The author limit passes its check, be it kept or the default. -/
theorem citations_written :
    citationsOf ((Entries.ofNames (m.plain.names
      [("enabled", c.referencesEnabled), ("format", citationsValue c.citations)])).getD "format") =
        .ok ⟨m.pick ["format", "max_authors"] c.citations.maxAuthors default.citations.maxAuthors,
          m.pick ["format", "et_al"] c.citations.etAl default.citations.etAl,
          m.pick ["format", "et_al_ja"] c.citations.etAlJa default.citations.etAlJa,
          m.pick ["format", "author_sep"] c.citations.authorSep default.citations.authorSep,
          m.pick ["format", "identifier_sep"] c.citations.identifierSep
            default.citations.identifierSep⟩ := by
  have hformat : List.lookup "format"
      [("enabled", c.referencesEnabled), ("format", citationsValue c.citations)] =
        some (citationsValue c.citations) := rfl
  have hlimit : IsLimit ((m.under "format").pick ["max_authors"] c.citations.maxAuthors
      default.citations.maxAuthors) :=
    Manner.pick_of_both h.authors ⟨2, by decide, rfl⟩
  simp only [Manner.pick_cons "format"]
  rw [Entries.getD, get?_plain, hformat, Option.map_some]
  split_ifs
  · -- without the section what is read is null, and null has no entries
    exact checkLimit_eq (c := CitationSettings.default) ⟨2, by decide, rfl⟩
  · rw [Option.getD_some, citationsValue, Manner.written_ofNames, citationsOf,
      Attempt.bind_ok (entriesOf_map _)]
    dsimp only
    rw [setting_plain rfl h.authors.ne_map,
      setting_plain rfl (h.plain c.citations.etAl (by simp)),
      setting_plain rfl (h.plain c.citations.etAlJa (by simp)),
      setting_plain rfl (h.plain c.citations.authorSep (by simp)),
      setting_plain rfl (h.plain c.citations.identifierSep (by simp))]
    exact checkLimit_eq hlimit

theorem references_written :
    part (Entries.ofNames (m.plain.names c.sections)) "references"
      (default.referencesEnabled, default.citations) (fun s => do
        let format ← citationsOf (s.getD "format")
        return (setting s "enabled" (.bool true), format)) =
          .ok ((c.kept m).referencesEnabled, (c.kept m).citations) := by
  rw [part_plain rfl, Attempt.bind_ok (citations_written h (m.under "references")),
    setting_plain rfl (h.plain c.referencesEnabled (by simp))]
  simp only [kept, Manner.pick_cons "references"]
  split_ifs <;> rfl

theorem output_written :
    part (Entries.ofNames (m.plain.names c.sections)) "output" default.output (fun s => do
      let limit ← atLeastOne (setting s "max_parallel" (.int 1))
      return ⟨setting s "include_theme" (.bool true), limit⟩) = .ok (c.kept m).output := by
  have hlimit : IsLimit ((m.under "output").pick ["max_parallel"] c.output.maxParallel (.int 1)) :=
    Manner.pick_of_both h.parallel ⟨1, by decide, rfl⟩
  rw [part_plain rfl, setting_plain rfl h.parallel.ne_map, Attempt.bind_ok (atLeastOne_eq hlimit),
    setting_plain rfl (h.plain c.output.includeTheme (by simp))]
  simp only [kept, Manner.pick_cons "output"]
  split_ifs <;> rfl

omit h in
theorem logging_written :
    part (Entries.ofNames (m.plain.names c.sections)) "logging" default.logLevel
      (fun s => levelOf (setting s "level" (.str "INFO"))) = .ok (c.kept m).logLevel := by
  have hlevel : levelOf ((m.under "logging").pick ["level"] (.str c.logLevel.name) (.str "INFO")) =
      .ok ((m.under "logging").pick ["level"] c.logLevel .info) := by
    unfold Manner.pick
    split_ifs
    · exact levelOf_name c.logLevel
    · exact levelOf_name .info
  rw [part_plain rfl, setting_plain rfl (by simp), hlevel]
  simp only [kept, Manner.pick_cons "logging"]
  split_ifs <;> rfl

end Parts

/-- With nothing left out all settings are kept. -/
theorem kept_eq {m : Manner} (hm : ∀ way, m.omits way = false) (c : Config) : c.kept m = c := by
  have hpick {α : Type} (way : List String) (own default : α) : m.pick way own default = own :=
    if_pos (Manner.keeps_of_forall hm way)
  simp only [kept, hpick]

/-- **Configurations that are written and read.** In whatever manner the data of a configuration is
written, what is read has its settings where they are kept and the defaults where they are not; with
nothing left out it is the configuration. -/
theorem ofValue_written (h : c.Proper) (m : Manner) :
    ofValue (m.written c.toValue) = .ok (c.kept m) ∧
      ((∀ way, m.omits way = false) → ofValue (m.written c.toValue) = .ok c) := by
  have hread : ofValue (m.written c.toValue) = .ok (c.kept m) := by
    -- one section after the other, in the order in which they are read
    rw [ofValue, Attempt.bind_ok (topEntries_written h m), Attempt.bind_ok (templates_written h m),
      Attempt.bind_ok (icons_written h m), Attempt.bind_ok (references_written h m)]
    dsimp only
    rw [Attempt.bind_ok (output_written h m), Attempt.bind_ok (logging_written m)]
    rfl
  exact ⟨hread, fun hm => by rw [hread, kept_eq hm]⟩

/-- A configuration with settings of its own. -/
def studio : Config :=
  ⟨⟨.str "base", .str "own"⟩, .str "icons", .bool false,
    ⟨.int 5, .str "and others", .str "ら", .str " / ", .str "|"⟩, ⟨.bool false, .int 4⟩, .error⟩

/-- Inner capitals in every key, and neither the level nor the words for further authors. -/
def terse : Manner :=
  ⟨fun _ => true,
    fun way => [["logging", "level"], ["references", "format", "et_al"]].contains way⟩

theorem ofValue_written_studio :
    studio.Proper ∧
      terse.written studio.toValue = .map (Entries.ofNames
        [("templates", .map (Entries.ofNames [("builtin", .str "base"), ("custom", .str "own")])),
          ("icons", .map (Entries.ofNames [("registry", .str "icons")])),
          ("references", .map (Entries.ofNames [("enabled", .bool false),
            ("format", .map (Entries.ofNames [("maxAuthors", .int 5), ("etAlJa", .str "ら"),
              ("authorSep", .str " / "), ("identifierSep", .str "|")]))])),
          ("output", .map (Entries.ofNames [("includeTheme", .bool false), ("maxParallel", .int 4)])),
          ("logging", .map [])]) ∧
      ofValue (terse.written studio.toValue) = .ok
        ⟨⟨.str "base", .str "own"⟩, .str "icons", .bool false,
          ⟨.int 5, .str "et al.", .str "ら", .str " / ", .str "|"⟩, ⟨.bool false, .int 4⟩, .info⟩ := by
  have h : studio.Proper := ⟨⟨5, by decide, rfl⟩, ⟨4, by decide, rfl⟩, by simp [studio]⟩
  exact ⟨h, by cbv, (ofValue_written h terse).1⟩

end SlidePress.Config
