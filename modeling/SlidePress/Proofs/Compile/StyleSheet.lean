import SlidePress.Proofs.Compile.Citations
import SlidePress.Proofs.Compile.Filling
import SlidePress.Proofs.Distinct
import SlidePress.Proofs.Document.StyleSheet

/-! # The style rules of a deck

Style rules go a long way from the template that brings them to the document: they are collected by
the names of the templates that the slides use, each once, put together with empty lines between
them, and indented in the header. On that way nothing is lost, doubled or changed but for the line
feeds around the rules of a template (`Compiler.exists_styleSheet`). -/

namespace SlidePress

namespace Text

theorem mem_dropWhile_of_mem {p : Char → Bool} {a : Char} {cs : List Char} (ha : a ∈ cs)
    (hp : p a = false) : a ∈ cs.dropWhile p := by
  rw [← List.takeWhile_append_dropWhile (p := p) (l := cs), List.mem_append] at ha
  refine ha.resolve_left fun htake => ?_
  rw [List.mem_takeWhile_imp htake] at hp
  cases hp

/-- What is not to be cut off stays. -/
theorem mem_stripBy {p : Char → Bool} {a : Char} {cs : List Char} (ha : a ∈ cs)
    (hp : p a = false) : a ∈ stripBy p cs := by
  rw [stripBy, stripRightBy, List.mem_reverse]
  exact mem_dropWhile_of_mem (List.mem_reverse.2 (mem_dropWhile_of_mem ha hp)) hp

end Text

namespace Registry

variable {r : Registry} {names : List String} {name : String}

/-- The style rules of the template with a name; empty without such a template or without rules. -/
def rulesOf (r : Registry) (name : String) : String :=
  ((r.get? name).bind TemplateDefinition.css).getD ""

/-- Whether a template with style rules is registered under a name. -/
def Styled (r : Registry) (name : String) : Prop := r.rulesOf name ≠ ""

instance (r : Registry) (name : String) : Decidable (r.Styled name) :=
  inferInstanceAs (Decidable (r.rulesOf name ≠ ""))

/-- The names with style rules, each once. -/
def styledAmong (r : Registry) (names : List String) : List String :=
  names.eraseDups.filter fun n => r.Styled n

theorem mem_styledAmong : name ∈ r.styledAmong names ↔ name ∈ names ∧ r.Styled name := by
  rw [styledAmong, List.mem_filter, List.mem_eraseDups, decide_eq_true_eq]

theorem nodup_styledAmong (r : Registry) (names : List String) : (r.styledAmong names).Nodup :=
  (nodup_eraseDups names).filter _

/-- Names with style rules stand in the order in which they are used first. -/
theorem pairwise_styledAmong (r : Registry) (names : List String) :
    (r.styledAmong names).Pairwise fun m n => names.idxOf m < names.idxOf n :=
  (pairwise_idxOf_eraseDups names).filter _

/-- **The style rules of templates** are those of the names that have any. -/
theorem css_eq (r : Registry) (names : List String) :
    r.css names = "\n\n".intercalate ((r.styledAmong names).map fun n => trimmedCss (r.rulesOf n)) := by
  rw [css, styledAmong]
  refine congrArg _ ?_
  induction names.eraseDups with
  | nil => rfl
  | cons n ns ih =>
    have hstyled : r.Styled n ↔ ∃ css, (r.get? n).bind TemplateDefinition.css = some css ∧ css ≠ "" := by
      unfold Styled rulesOf
      cases (r.get? n).bind TemplateDefinition.css <;> simp
    rw [List.filterMap_cons, ih]
    by_cases h : r.Styled n
    · obtain ⟨css, hcss, hne⟩ := hstyled.1 h
      rw [List.filter_cons_of_pos (by simpa using h), List.map_cons, rulesOf, hcss]
      simp [hne]
    · rw [List.filter_cons_of_neg (by simpa using h)]
      cases hcss : (r.get? n).bind TemplateDefinition.css with
      | none => rfl
      | some css =>
        have hempty : css = "" := by_contra fun hne => h (hstyled.2 ⟨css, hcss, hne⟩)
        simp [hempty]

/-- Style rules that are more than line feeds. -/
def Substantial (r : Registry) : Prop :=
  ∀ t ∈ r.definitions, ∀ css ∈ t.css, css ≠ "" → ∃ a ∈ css.toList, a ≠ '\n'

theorem exists_mem_rulesOf (h : r.Substantial) (hname : r.Styled name) :
    ∃ a ∈ (r.rulesOf name).toList, a ≠ '\n' := by
  unfold Styled rulesOf at hname
  cases hget : r.get? name with
  | none => simp [hget] at hname
  | some t =>
    have ht : t ∈ r.definitions := by
      obtain ⟨u, v, htemplates, -⟩ := List.lookup_eq_some_iff.1 hget
      simp [definitions, htemplates]
    cases hcss : t.css with
    | none => simp [hget, hcss] at hname
    | some css =>
      have hne : css ≠ "" := by simpa [hget, hcss] using hname
      simpa [rulesOf, hget, hcss] using h t ht css hcss hne

/-- **There are style rules** exactly if some name has any. -/
theorem css_ne_empty_iff (h : r.Substantial) : r.css names ≠ "" ↔ ∃ n ∈ names, r.Styled n := by
  constructor
  · intro hcss
    rw [css_eq] at hcss
    obtain ⟨n, hn⟩ : ∃ n, n ∈ r.styledAmong names :=
      List.exists_mem_of_ne_nil _ fun hnil => hcss (by rw [hnil]; rfl)
    exact ⟨n, mem_styledAmong.1 hn⟩
  · rintro ⟨n, hn, hstyled⟩ hcss
    obtain ⟨a, ha, hbreak⟩ := exists_mem_rulesOf h hstyled
    have hkept : a ∈ (trimmedCss (r.rulesOf n)).toList := by
      rw [trimmedCss, String.toList_ofList]
      exact Text.mem_stripBy ha (by simpa using hbreak)
    have hpiece : (trimmedCss (r.rulesOf n)).toList ∈
        ((r.styledAmong names).map fun n => trimmedCss (r.rulesOf n)).map String.toList :=
      List.mem_map_of_mem (List.mem_map_of_mem (mem_styledAmong.2 ⟨hn, hstyled⟩))
    have hmem : a ∈ (r.css names).toList := by
      rw [css_eq, String.toList_intercalate]
      exact Text.subset_intercalate hpiece hkept
    rw [hcss] at hmem
    simp at hmem

end Registry

namespace Compiler

open Document (mark styleMark unindented)

variable {describe : Fault → String} {c : Compiler} {d : Deck} {r : Compilation}

/-- Filling in bibliographies changes neither what is known about a deck nor its templates. -/
theorem filledDeck_info (describe : Fault → String) (c : Compiler) (d : Deck) :
    (c.filledDeck describe d).info = d.info ∧
      (c.filledDeck describe d).slides.map Slide.template = d.slides.map Slide.template := by
  obtain ⟨out, hout, hslides⟩ :=
    Deck.exists_filled_slides describe c.config c.source (Citation.ids d.citations) d
  rw [filledDeck, hout]
  have htemplate : List.Forall₂ (fun s' s : Slide => s'.template = s.template) out d.slides := by
    refine hslides.flip.imp fun s' s h => ?_
    rcases h with rfl | h
    · rfl
    · cases h.completed <;> rfl
  refine ⟨rfl, ?_⟩
  rwa [← List.forall₂_eq_eq_eq, List.forall₂_map_left_iff, List.forall₂_map_right_iff]

/-- What a compilation writes: the deck with its bibliographies, with some bodies. -/
theorem exists_output (h : (c.compile describe d).ending = .ok r) :
    ∃ bodies, r.output = Document.render bodies (c.filledDeck describe d).info
      (c.renderOptions (c.filledDeck describe d)) := by
  unfold compile at h
  split_ifs at h
  obtain ⟨bodies, -, rfl⟩ := finish_eq_ok.1 h
  exact ⟨bodies, rfl⟩

/-- **Style rules reach the header** once and as they are. The header of a compiled deck has a style
sheet exactly if a slide of it uses a template with style rules; the lines up to the end of the
header are then indented or empty, and without the indentation they are the rules of the templates
in use, each once in the order of their first use, without the line feeds around them and with an
empty line between them. -/
theorem exists_styleSheet (h : (c.compile describe d).ending = .ok r)
    (hlines : Document.SingleLined d.info (c.renderOptions d)) (hcss : c.templates.Substantial) :
    ∃ head rest, Document.linesOf r.output = mark :: head ++ mark :: rest ∧ mark ∉ head ∧
      (styleMark ∈ head ↔ ∃ s ∈ d.slides, c.templates.Styled s.template) ∧
      (styleMark ∈ head → ∃ before sheet used : List String,
        head = before ++ styleMark :: sheet ∧ styleMark ∉ before ∧
        (∀ l ∈ sheet, l = "" ∨ "  ".toList <+: l.toList) ∧
        used.Nodup ∧ (∀ n, n ∈ used ↔ n ∈ d.slides.map Slide.template ∧ c.templates.Styled n) ∧
        (used.Pairwise fun m n => (d.slides.map Slide.template).idxOf m <
          (d.slides.map Slide.template).idxOf n) ∧
        Text.join "\n" (sheet.map unindented) =
          "\n\n".intercalate (used.map fun n => Registry.trimmedCss (c.templates.rulesOf n))) := by
  obtain ⟨hinfo, htemplates⟩ := filledDeck_info describe c d
  obtain ⟨bodies, houtput⟩ := exists_output h
  rw [hinfo] at houtput
  generalize c.filledDeck describe d = d' at houtput htemplates
  have hstyle : (c.renderOptions d').style =
      some (c.templates.css (d.slides.map Slide.template)) := congrArg _ (congrArg _ htemplates)
  have hlines' : Document.SingleLined d.info (c.renderOptions d') :=
    ⟨hlines.title, hlines.author, hlines.date, hlines.theme, hlines.extra⟩
  refine ⟨Document.innerLines d.info (c.renderOptions d'), _,
    houtput ▸ Document.linesOf_render hlines' bodies, Document.mark_notMem_innerLines hlines', ?_,
    fun hmark => ?_⟩
  · rw [Document.styleMark_mem_innerLines_iff rfl, hstyle]
    simp only [Option.mem_some_iff, exists_eq_left', Registry.css_ne_empty_iff hcss, List.mem_map,
      exists_exists_and_eq_and]
  · rw [Document.styleMark_mem_innerLines_iff rfl, hstyle] at hmark
    obtain ⟨s, rfl, hs⟩ : ∃ s, s = c.templates.css (d.slides.map Slide.template) ∧ s ≠ "" := by
      simpa using hmark
    obtain ⟨sheet, hsheet, hindented, hread⟩ := Document.exists_styleLines hs
    refine ⟨Document.plainLines d.info (c.renderOptions d'), sheet,
      c.templates.styledAmong (d.slides.map Slide.template), ?_,
      Document.styleMark_notMem_plainLines rfl, hindented, Registry.nodup_styledAmong _ _,
      fun n => Registry.mem_styledAmong, Registry.pairwise_styledAmong _ _,
      hread.trans (Registry.css_eq _ _)⟩
    rw [Document.innerLines_eq, hstyle, hsheet]

/-- A template without fields. -/
def garment (name : String) (css : Option String) : Registered :=
  ⟨⟨name, "", "", [], name, none, css⟩, .anything⟩

/-- A compiler with two templates that have style rules and one that has none. -/
def wardrobe : Compiler :=
  ⟨Config.default, ((Registry.empty.register (garment "coat" (some "\n.a \x7b\n\n  b\n\x7d\n\n"))).register
    (garment "belt" none)).register (garment "hat" (some "---\r")), fun _ => .error .endless,
    Shelf.empty.source⟩

/-- A deck that uses templates more than once, and not in the order of their registration. -/
def dressed : Deck :=
  ⟨⟨"T", none, none, "", none⟩,
    ["hat", "raw", "coat", "belt", "hat", "coat"].map fun n => ⟨n, [], none, none, some "r"⟩⟩

theorem exists_styleSheet_wardrobe :
    ∃ r, (wardrobe.compile Fault.describe dressed).ending = .ok r ∧
      Document.SingleLined dressed.info (wardrobe.renderOptions dressed) ∧
      wardrobe.templates.Substantial ∧
      ∃ before sheet used rest : List String,
        Document.linesOf r.output = mark :: (before ++ styleMark :: sheet) ++ mark :: rest ∧
        used.Nodup ∧ "hat" ∈ used ∧ "coat" ∈ used ∧ "belt" ∉ used ∧
        Text.join "\n" (sheet.map unindented) =
          "\n\n".intercalate (used.map fun n => Registry.trimmedCss (wardrobe.templates.rulesOf n)) := by
  obtain ⟨r, hr, -⟩ : ∃ r,
      (wardrobe.compile Fault.describe dressed).ending.toOption = some r ∧ r.slideCount = 6 :=
    Option.map_eq_some_iff.1 (by decide +kernel)
  replace hr := Attempt.eq_ok_of_toOption hr
  have hlines : Document.SingleLined dressed.info (wardrobe.renderOptions dressed) :=
    ⟨by simp [dressed], by simp [dressed], by simp [dressed], by simp [dressed],
      fun e he => absurd he List.not_mem_nil⟩
  have hcss : wardrobe.templates.Substantial := by
    simp [Registry.Substantial, Registry.definitions, wardrobe, Registry.register, Registry.put,
      Registry.empty, garment]
  obtain ⟨head, rest, houtput, -, hstyled, hsheet⟩ := exists_styleSheet hr hlines hcss
  obtain ⟨before, sheet, used, rfl, -, -, hnodup, hused, -, hread⟩ :=
    hsheet (hstyled.2 (by decide +kernel))
  exact ⟨r, hr, hlines, hcss, before, sheet, used, rest, houtput, hnodup,
    (hused "hat").2 (by decide +kernel), (hused "coat").2 (by decide +kernel),
    fun hbelt => absurd ((hused "belt").1 hbelt) (by decide +kernel), hread⟩

end Compiler

end SlidePress
