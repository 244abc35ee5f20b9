import SlidePress.Proofs.Document.Decoding

/-! # Reading the style sheet back

The style sheet is the last thing in a header. It stands behind a line of its own, each of its lines
indented by two blanks and empty lines left empty, and the line that ends the header stands behind
it. No line before it looks like its beginning (`styleMark_notMem_plainLines`), and taking the blanks
away undoes the indentation (`unindented_indented`), so it is read back as it was
(`exists_styleLines`). -/

namespace SlidePress

namespace Document

/-- The line that begins the style sheet. -/
def styleMark : String := "style: |"

/-- A line of the style sheet as it stands in the header. -/
def indented (l : String) : String := if l.isEmpty then "" else "  " ++ l

/-- A line without the first two characters. -/
def unindented (l : String) : String := String.ofList (l.toList.drop 2)

theorem unindented_indented (l : String) : unindented (indented l) = l := by
  unfold indented
  split_ifs with h
  · rw [String.isEmpty_iff.1 h]
    rfl
  · simp [unindented]

/-- An indented line is empty, or begins with two blanks. -/
theorem indented_cases (l : String) : indented l = "" ∨ "  ".toList <+: (indented l).toList := by
  unfold indented
  split_ifs
  · exact .inl rfl
  · exact .inr ⟨l.toList, by simp⟩

/-- **A style sheet is read back** from its lines. -/
theorem exists_styleLines {s : String} (h : s ≠ "") :
    ∃ sheet, styleLines (some s) = styleMark :: sheet ∧
      (∀ l ∈ sheet, l = "" ∨ "  ".toList <+: l.toList) ∧
      Text.join "\n" (sheet.map unindented) = s := by
  refine ⟨(linesOf s).map indented, ?_, List.forall_mem_map.2 fun l _ => indented_cases l, ?_⟩
  · rw [styleLines, if_neg fun hempty => h (String.isEmpty_iff.1 hempty)]
    rfl
  · have hinverse : unindented ∘ indented = id := funext unindented_indented
    rw [List.map_map, hinverse, List.map_id, join_linesOf]

/-! ### In the header -/

/-- The lines of a header before the style sheet. -/
def plainLines (info : DeckInfo) (o : RenderOptions) : List String :=
  ["marp: true", Header.line "title" (.str info.title)] ++
    lineOf? "author" info.author ++ lineOf? "date" info.date ++
    (if o.includeTheme then lineOf? "theme" (some info.theme) else []) ++
    o.extra.map (fun e => Header.line e.1.text e.2)

variable {info : DeckInfo} {o : RenderOptions}

theorem innerLines_eq (info : DeckInfo) (o : RenderOptions) :
    innerLines info o = plainLines info o ++ styleLines o.style := rfl

/-- A line begins as the name in it begins. -/
theorem line_ne_styleMark {name : String} {v : Value} {c : Char} (h : name.toList.head? = some c)
    (hc : c ≠ 's') : Header.line name v ≠ styleMark := fun hline => by
  obtain ⟨rest, hname⟩ := List.head?_eq_some_iff.1 h
  have hchars := congrArg (fun l => l.toList.head?) hline
  simp only [Header.line, String.toList_append, hname, List.cons_append, List.head?_cons] at hchars
  exact hc (Option.some.inj hchars)

theorem ne_styleMark_of_mem_lineOf? {name : String} {s : Option String} {c : Char}
    (h : name.toList.head? = some c) (hc : c ≠ 's') : ∀ l ∈ lineOf? name s, l ≠ styleMark := by
  unfold lineOf?
  split
  · split_ifs
    · exact fun l hl => absurd hl List.not_mem_nil
    · exact List.forall_mem_singleton.2 (line_ne_styleMark h hc)
  · exact fun l hl => absurd hl List.not_mem_nil

/-- **Nothing before the style sheet** looks like its beginning. -/
theorem styleMark_notMem_plainLines (hextra : o.extra = []) : styleMark ∉ plainLines info o := by
  have hfirst : styleMark ∉ ["marp: true", Header.line "title" (.str info.title)] := by
    have htitle : Header.line "title" (.str info.title) ≠ styleMark :=
      line_ne_styleMark (c := 't') (by simp) (by decide)
    simpa [styleMark] using htitle.symm
  have hauthor : styleMark ∉ lineOf? "author" info.author := fun h =>
    ne_styleMark_of_mem_lineOf? (c := 'a') (by simp) (by decide) _ h rfl
  have hdate : styleMark ∉ lineOf? "date" info.date := fun h =>
    ne_styleMark_of_mem_lineOf? (c := 'd') (by simp) (by decide) _ h rfl
  have htheme : styleMark ∉ if o.includeTheme then lineOf? "theme" (some info.theme) else [] := by
    split_ifs
    · exact fun h => ne_styleMark_of_mem_lineOf? (c := 't') (by simp) (by decide) _ h rfl
    · exact List.not_mem_nil
  rw [plainLines, hextra, List.map_nil, List.append_nil]
  simp only [List.mem_append, not_or]
  exact ⟨⟨⟨hfirst, hauthor⟩, hdate⟩, htheme⟩

/-- A header has a style sheet if it is given one that is not empty. -/
theorem styleMark_mem_innerLines_iff (hextra : o.extra = []) :
    styleMark ∈ innerLines info o ↔ ∃ s ∈ o.style, s ≠ "" := by
  rw [innerLines_eq, List.mem_append, or_iff_right (styleMark_notMem_plainLines hextra)]
  cases o.style with
  | none => simp [styleLines]
  | some s =>
    by_cases hs : s = ""
    · simp [styleLines, hs]
    · obtain ⟨sheet, hsheet, -⟩ := exists_styleLines hs
      simp [hsheet, hs]

end Document

end SlidePress
