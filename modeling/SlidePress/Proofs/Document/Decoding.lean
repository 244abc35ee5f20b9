import SlidePress.Presentation
import SlidePress.Proofs.Text.Split

/-! # Reading a document back

A document marks the end of its header and the ends of its slides by the same line of three hyphens.
Nothing in a header can be such a line: what is known about the deck stands behind a colon, and the
style sheet is indented (`isInner_of_mem_innerLines`). So the second line of three hyphens ends the
header, whatever the style sheet holds.

Behind the header the separator can only be found where it was put. It holds a line of three hyphens
of its own, which bodies and notes do not; an occurrence that begins earlier would have that line
within a body (`length_le_of_append_separator`). So the pieces between the separators are the bodies with
their notes (`splitOn_join_separator`), and equal documents have equal headers and bodies
(`eq_of_render_eq`). -/

namespace SlidePress

namespace Document

/-! ### Lines -/

/-- The line that ends a header, and that stands between slides. -/
def mark : String := "---"

/-- The characters of the separator. -/
def separatorChars : List Char := ['\n', '\n', '-', '-', '-', '\n', '\n']

theorem toList_separator : separator.toList = separatorChars := by simp [separator, separatorChars]

theorem linesOf_eq (s : String) : linesOf s = (s.toList.splitOn '\n').map String.ofList := by
  rw [linesOf, Text.splitOn_singleton]

theorem mem_linesOf {s l : String} : l ∈ linesOf s ↔ l.toList ∈ s.toList.splitOn '\n' := by
  rw [linesOf_eq, List.mem_map]
  constructor
  · rintro ⟨cs, hcs, rfl⟩
    rwa [String.toList_ofList]
  · exact fun h => ⟨l.toList, h, String.ofList_toList⟩

theorem notMem_of_mem_linesOf {s l : String} (h : l ∈ linesOf s) : '\n' ∉ l.toList :=
  Text.notMem_of_mem_splitOn (mem_linesOf.1 h)

theorem linesOf_append (s t : String) : linesOf (s ++ "\n" ++ t) = linesOf s ++ linesOf t := by
  have hlf : "\n".toList = ['\n'] := by simp
  rw [linesOf_eq, linesOf_eq, linesOf_eq, String.toList_append, String.toList_append, hlf,
    List.append_assoc, List.singleton_append, List.splitOn_append_cons_self, List.map_append]

theorem linesOf_of_notMem {s : String} (h : '\n' ∉ s.toList) : linesOf s = [s] := by
  rw [linesOf_eq, List.splitOn_eq_singleton h, List.map_singleton, String.ofList_toList]

/-- Lines with line feeds between them are read back. -/
theorem linesOf_join {ls : List String} (hls : ls ≠ []) (h : ∀ l ∈ ls, '\n' ∉ l.toList) :
    linesOf (Text.join "\n" ls) = ls := by
  have hlf : "\n".toList = ['\n'] := by simp
  have hlines : ∀ cs ∈ ls.map String.toList, '\n' ∉ cs := List.forall_mem_map.2 h
  rw [linesOf_eq, Text.join, String.toList_ofList, Text.joinWith_eq_intercalate, hlf,
    List.splitOn_intercalate '\n' hlines (by simpa using hls), List.map_map]
  simp

theorem join_linesOf (s : String) : Text.join "\n" (linesOf s) = s := by
  have hlf : "\n".toList = ['\n'] := by simp
  rw [linesOf_eq, Text.join, Text.joinWith_eq_intercalate, hlf, List.map_map]
  simp

/-! ### The header -/

/-- What is printed in a header besides the style sheet is free of line feeds. -/
structure SingleLined (info : DeckInfo) (o : RenderOptions) : Prop where
  title : '\n' ∉ info.title.toList
  author : ∀ s ∈ info.author, '\n' ∉ s.toList
  date : ∀ s ∈ info.date, '\n' ∉ s.toList
  theme : '\n' ∉ info.theme.toList
  extra : ∀ e ∈ o.extra, '\n' ∉ e.1.text.toList ∧ '\n' ∉ (Header.value e.2).toList

/-- The lines of the header that stand between its two marks. -/
def innerLines (info : DeckInfo) (o : RenderOptions) : List String :=
  ["marp: true", Header.line "title" (.str info.title)] ++
    lineOf? "author" info.author ++ lineOf? "date" info.date ++
    (if o.includeTheme then lineOf? "theme" (some info.theme) else []) ++
    o.extra.map (fun e => Header.line e.1.text e.2) ++ styleLines o.style

theorem headerLines_eq (info : DeckInfo) (o : RenderOptions) :
    headerLines info o = mark :: innerLines info o ++ [mark] := by
  simp [headerLines, innerLines, mark]

/-- A line that can stand within a header: it is one line, and not the mark. -/
def IsInner (l : String) : Prop := '\n' ∉ l.toList ∧ l ≠ mark

theorem notMem_quoted {cs : List Char} (h : '\n' ∉ cs) : '\n' ∉ Header.quoted cs := by
  have hreplaced : '\n' ∉ Text.replaceAll ['"'] ['\\', '"'] cs := fun hmem => by
    rw [Text.replaceAll, Text.replaceUpTo, if_neg (by decide)] at hmem
    exact (Text.mem_of_mem_replaceFrom hmem).elim (by decide) h
  simp [Header.quoted, hreplaced]

theorem notMem_value_str {s : String} (h : '\n' ∉ s.toList) : '\n' ∉ (Header.value (.str s)).toList := by
  show '\n' ∉ (Header.textValue s).toList
  unfold Header.textValue
  split_ifs
  · rw [String.toList_ofList]
    exact notMem_quoted h
  · exact h

/-- A line with a colon in it is not the mark. -/
theorem isInner_line {name : String} {v : Value} (hname : '\n' ∉ name.toList)
    (hv : '\n' ∉ (Header.value v).toList) : IsInner (Header.line name v) := by
  have hline : (Header.line name v).toList = name.toList ++ [':', ' '] ++ (Header.value v).toList := by
    simp [Header.line]
  refine ⟨by simp [hline, hname, hv], fun h => ?_⟩
  have hmem : ':' ∈ (Header.line name v).toList := by simp [hline]
  rw [h] at hmem
  simp [mark] at hmem

theorem isInner_of_mem_lineOf? {name : String} {s : Option String} (hname : '\n' ∉ name.toList)
    (hs : ∀ t ∈ s, '\n' ∉ t.toList) : ∀ l ∈ lineOf? name s, IsInner l := by
  cases s with
  | none => simp [lineOf?]
  | some s =>
    rw [lineOf?]
    split_ifs
    · simp
    · exact List.forall_mem_singleton.2 (isInner_line hname (notMem_value_str (hs s rfl)))

/-- A line of the style sheet is empty or indented. -/
theorem isInner_of_mem_styleLines (style : Option String) : ∀ l ∈ styleLines style, IsInner l := by
  cases style with
  | none => simp [styleLines]
  | some s =>
    rw [styleLines]
    split_ifs
    · simp
    · refine List.forall_mem_cons.2 ⟨by simp [IsInner, mark], List.forall_mem_map.2 fun l hl => ?_⟩
      split_ifs
      · simp [IsInner, mark]
      · have hindented : ("  " ++ l).toList = ' ' :: ' ' :: l.toList := by simp
        refine ⟨by simp [hindented, notMem_of_mem_linesOf hl], fun h => ?_⟩
        have htoList := congrArg String.toList h
        rw [hindented] at htoList
        simp [mark] at htoList

/-- **No line within a header** is the mark. -/
theorem isInner_of_mem_innerLines {info : DeckInfo} {o : RenderOptions} (h : SingleLined info o) :
    ∀ l ∈ innerLines info o, IsInner l := by
  have htheme : ∀ l ∈ (if o.includeTheme then lineOf? "theme" (some info.theme) else []),
      IsInner l := by
    split_ifs
    · exact isInner_of_mem_lineOf? (by simp) (by simpa using h.theme)
    · simp
  have hfirst : ∀ l ∈ ["marp: true", Header.line "title" (.str info.title)], IsInner l :=
    List.forall_mem_cons.2 ⟨by simp [IsInner, mark],
      List.forall_mem_singleton.2 (isInner_line (by simp) (notMem_value_str h.title))⟩
  have hextra : ∀ l ∈ o.extra.map fun e => Header.line e.1.text e.2, IsInner l :=
    List.forall_mem_map.2 fun e he => isInner_line (h.extra e he).1 (h.extra e he).2
  simp only [innerLines, List.forall_mem_append]
  exact ⟨⟨⟨⟨⟨hfirst, isInner_of_mem_lineOf? (by simp) h.author⟩,
    isInner_of_mem_lineOf? (by simp) h.date⟩, htheme⟩, hextra⟩, isInner_of_mem_styleLines o.style⟩

theorem linesOf_header {info : DeckInfo} {o : RenderOptions} (h : SingleLined info o) :
    linesOf (header info o) = headerLines info o := by
  have hmark : '\n' ∉ mark.toList := by simp [mark]
  refine linesOf_join (by rw [headerLines_eq]; simp) ?_
  rw [headerLines_eq, List.cons_append]
  exact List.forall_mem_cons.2 ⟨hmark, List.forall_mem_append.2
    ⟨fun l hl => (isInner_of_mem_innerLines h l hl).1, List.forall_mem_singleton.2 hmark⟩⟩

/-! ### The slides -/

/-- The lines of a text with a separator in it. -/
theorem splitOn_separatorChars (u v : List Char) :
    (u ++ (separatorChars ++ v)).splitOn '\n' =
      u.splitOn '\n' ++ [] :: ['-', '-', '-'] :: [] :: v.splitOn '\n' := by
  have hrule : (['-', '-', '-'] : List Char).splitOn '\n' = [['-', '-', '-']] :=
    List.splitOn_eq_singleton (by decide)
  have hseparator : separatorChars ++ v =
      '\n' :: ([] ++ '\n' :: (['-', '-', '-'] ++ '\n' :: ([] ++ '\n' :: v))) := rfl
  rw [hseparator, List.splitOn_append_cons_self, List.splitOn_append_cons_self,
    List.splitOn_append_cons_self, List.splitOn_append_cons_self, hrule, List.splitOn_nil]
  rfl

/-- **An occurrence of the separator** does not begin within a text without a line of hyphens. -/
theorem length_le_of_append_separator {cs rest u v : List Char}
    (hcs : ['-', '-', '-'] ∉ cs.splitOn '\n')
    (h : cs ++ (separatorChars ++ rest) = u ++ (separatorChars ++ v)) : cs.length ≤ u.length := by
  obtain ⟨t, rfl, -⟩ | ⟨t, rfl, ht⟩ := List.append_eq_append_iff.1 h
  · simp
  · cases t with
    | nil => simp
    | cons c t =>
      -- The line feed at the beginning of the occurrence ends a line of the text, and the line of
      -- hyphens of the occurrence is then one of the lines that follow.
      obtain rfl : c = '\n' := (List.cons.inj ht).1.symm
      have hlines := congrArg (List.splitOn '\n') h
      rw [splitOn_separatorChars, splitOn_separatorChars, List.splitOn_append_cons_self,
        List.append_assoc, List.append_cancel_left_eq] at hlines
      rw [List.splitOn_append_cons_self, List.mem_append, not_or] at hcs
      obtain ⟨first, lines, hsplit⟩ := List.exists_cons_of_ne_nil (List.splitOn_ne_nil '\n' t)
      rw [hsplit] at hlines hcs
      cases lines with
      | nil => cases hlines
      | cons second lines =>
        obtain rfl : second = ['-', '-', '-'] := (List.cons.inj (List.cons.inj hlines).2).1
        exact absurd (List.mem_cons_of_mem _ List.mem_cons_self) hcs.2

/-- **The pieces between the separators** of a text are the texts that were joined. -/
theorem splitOn_joinWith_separatorChars :
    ∀ {pieces : List (List Char)}, pieces ≠ [] →
      (∀ piece ∈ pieces, ['-', '-', '-'] ∉ piece.splitOn '\n') →
      Text.splitOn separatorChars (Text.joinWith separatorChars pieces) = pieces
  | [piece], _, h => by
    refine Text.splitOn_of_not_infix ?_
    rintro ⟨u, v, huv⟩
    refine h piece List.mem_cons_self ?_
    rw [Text.joinWith] at huv
    rw [← huv, List.append_assoc, splitOn_separatorChars]
    simp
  | piece :: next :: pieces, _, h => by
    obtain ⟨hpiece, hpieces⟩ := List.forall_mem_cons.1 h
    rw [Text.joinWith, List.append_assoc, Text.splitOn_append (by decide) fun u v huv =>
      length_le_of_append_separator hpiece huv,
      splitOn_joinWith_separatorChars (List.cons_ne_nil next pieces) hpieces]

theorem splitOn_join_separator {pieces : List String} (hpieces : pieces ≠ [])
    (h : ∀ piece ∈ pieces, mark ∉ linesOf piece) :
    (Text.splitOn separator.toList (Text.join separator pieces).toList).map String.ofList =
      pieces := by
  have hmark : mark.toList = ['-', '-', '-'] := by simp [mark]
  have hchars : ∀ piece ∈ pieces.map String.toList, ['-', '-', '-'] ∉ piece.splitOn '\n' :=
    List.forall_mem_map.2 fun piece hpiece hmem =>
      h piece hpiece (mem_linesOf.2 (hmark ▸ hmem))
  rw [Text.join, String.toList_ofList, toList_separator,
    splitOn_joinWith_separatorChars (by simpa using hpieces) hchars, List.map_map]
  simp

/-- The notes of a slide as they are written, empty if there are none. -/
def noteAt (o : RenderOptions) (i : Nat) : String := Text.strip ((o.notes.lookup i).getD "")

/-- Notes add no line of hyphens to a body. -/
theorem mark_notMem_withNotes {body : String} {note : Option String}
    (hbody : mark ∉ linesOf body) (hnote : mark ∉ linesOf (Text.strip (note.getD ""))) :
    mark ∉ linesOf (withNotes body note) := by
  unfold withNotes
  dsimp only
  split_ifs
  · exact hbody
  · have hopen : linesOf "<!--" = ["<!--"] := linesOf_of_notMem (by simp)
    have hclose : linesOf "-->" = ["-->"] := linesOf_of_notMem (by simp)
    have hempty : linesOf "" = [""] := linesOf_of_notMem (by simp)
    have happend : body ++ "\n\n<!--\n" ++ Text.strip (note.getD "") ++ "\n-->" =
        body ++ "\n" ++ ("" ++ "\n" ++ ("<!--" ++ "\n" ++
          (Text.strip (note.getD "") ++ "\n" ++ "-->"))) := by
      simp [← String.toList_inj]
    rw [happend, linesOf_append, linesOf_append, linesOf_append, linesOf_append, hempty, hopen,
      hclose]
    simp only [List.mem_append, List.mem_singleton, not_or]
    exact ⟨hbody, by simp [mark], by simp [mark], hnote, by simp [mark]⟩

/-! ### The document -/

/-- What can be read back: a header of single lines, and slides and notes without a line of three
hyphens. -/
structure Readable (slides : List String) (info : DeckInfo) (o : RenderOptions) : Prop where
  singleLined : SingleLined info o
  slides_unmarked : ∀ body ∈ slides, mark ∉ linesOf body
  notes_unmarked : ∀ i < slides.length, mark ∉ linesOf (noteAt o i)

variable {slides slides' : List String} {info info' : DeckInfo} {o o' : RenderOptions}

theorem Readable.mark_notMem_bodies (h : Readable slides info o) :
    ∀ piece ∈ bodies slides o, mark ∉ linesOf piece := by
  intro piece hpiece
  obtain ⟨i, hi, rfl⟩ := List.mem_mapIdx.1 hpiece
  exact mark_notMem_withNotes (h.slides_unmarked _ (List.getElem_mem hi)) (h.notes_unmarked i hi)

theorem mark_notMem_innerLines (h : SingleLined info o) : mark ∉ innerLines info o := fun hmem =>
  (isInner_of_mem_innerLines h mark hmem).2 rfl

theorem bodies_ne_nil (h : slides ≠ []) : bodies slides o ≠ [] := by
  simpa [bodies] using h

/-- The lines of a document behind its header. -/
def linesBehind (slides : List String) (o : RenderOptions) : List String :=
  if slides = [] then [] else "" :: linesOf (Text.join separator (bodies slides o))

theorem render_of_ne_nil (hslides : slides ≠ []) (info : DeckInfo) (o : RenderOptions) :
    render slides info o = header info o ++ "\n\n" ++ Text.join separator (bodies slides o) := by
  rw [render, if_neg (by simpa using hslides)]

/-- **The second mark ends the header**, and the slides follow behind an empty line. -/
theorem linesOf_render (h : SingleLined info o) (slides : List String) :
    linesOf (render slides info o) =
      mark :: innerLines info o ++ mark :: linesBehind slides o := by
  unfold linesBehind
  split_ifs with hslides
  · subst hslides
    exact (linesOf_header h).trans (headerLines_eq info o)
  · have hempty : linesOf "" = [""] := linesOf_of_notMem (by simp)
    have hbreak (a b : String) : a ++ "\n\n" ++ b = a ++ "\n" ++ ("" ++ "\n" ++ b) := by
      simp [← String.toList_inj]
    rw [render_of_ne_nil hslides, hbreak, linesOf_append, linesOf_append, linesOf_header h, hempty,
      headerLines_eq, List.append_assoc]
    rfl

/-- **A document is read back**: the second line of three hyphens ends the header, nothing follows
if there are no slides, and otherwise the pieces between the separators of what follows are the
bodies, each with its notes in a comment behind it if they are not blank. -/
theorem exists_linesOf_render (h : Readable slides info o) :
    ∃ inner rest, mark ∉ inner ∧ headerLines info o = mark :: inner ++ [mark] ∧
      linesOf (render slides info o) = mark :: inner ++ mark :: rest ∧
      (slides = [] → rest = [] ∧ render slides info o = header info o) ∧
      (slides ≠ [] → ∃ text, rest = "" :: linesOf text ∧
        render slides info o = header info o ++ "\n\n" ++ text ∧
        (Text.splitOn separator.toList text.toList).map String.ofList =
          slides.mapIdx fun i body =>
            if noteAt o i = "" then body
            else body ++ "\n\n<!--\n" ++ noteAt o i ++ "\n-->") := by
  refine ⟨innerLines info o, linesBehind slides o, mark_notMem_innerLines h.singleLined,
    headerLines_eq info o, linesOf_render h.singleLined slides, fun hslides => ?_, fun hslides => ?_⟩
  · subst hslides
    exact ⟨rfl, rfl⟩
  · refine ⟨Text.join separator (bodies slides o), if_neg hslides, render_of_ne_nil hslides info o,
      (splitOn_join_separator (bodies_ne_nil hslides) h.mark_notMem_bodies).trans ?_⟩
    refine congrArg (slides.mapIdx ·) (funext fun i => funext fun body => ?_)
    unfold withNotes noteAt
    simp only [String.isEmpty_iff]

/-- A style sheet with a line of three hyphens, and a note that is such a line but for its length. -/
def hyphenOptions : RenderOptions := ⟨true, [(1, " ---- ")], [], some "---\n"⟩

/-- Bodies that are empty, or begin or end in line feeds and hyphens. -/
def hyphenBodies : List String := ["\n--", "", "----\n"]

theorem exists_linesOf_render_hyphens :
    Readable hyphenBodies ⟨"T", none, none, "", none⟩ hyphenOptions ∧
    ∃ rest text, linesOf (render hyphenBodies ⟨"T", none, none, "", none⟩ hyphenOptions) =
        ["---", "marp: true", "title: T", "style: |", "  ---", "", "---"] ++ rest ∧
      rest = "" :: linesOf text ∧
      (Text.splitOn separator.toList text.toList).map String.ofList =
        ["\n--", "\n\n<!--\n----\n-->", "----\n"] := by
  have hreadable : Readable hyphenBodies ⟨"T", none, none, "", none⟩ hyphenOptions :=
    ⟨⟨by simp, by simp, by simp, by simp, by simp [hyphenOptions]⟩, by decide +kernel,
      by decide +kernel⟩
  obtain ⟨inner, rest, -, hheader, hlines, -, hslides⟩ := exists_linesOf_render hreadable
  obtain ⟨text, hrest, -, hpieces⟩ := hslides (by decide)
  refine ⟨hreadable, rest, text, ?_, hrest, hpieces.trans (by decide +kernel)⟩
  have hmarks : mark :: inner ++ mark :: rest = mark :: inner ++ [mark] ++ rest := by simp
  rw [hlines, hmarks, ← hheader]
  exact congrArg (· ++ rest) (by decide +kernel)

/-- **Equal documents** have the same header and the same bodies with notes. -/
theorem eq_of_render_eq (h : Readable slides info o) (h' : Readable slides' info' o')
    (heq : render slides info o = render slides' info' o') :
    headerLines info o = headerLines info' o' ∧ bodies slides o = bodies slides' o' := by
  have hlines := congrArg linesOf heq
  rw [linesOf_render h.singleLined, linesOf_render h'.singleLined, List.cons_append, List.cons_append,
    List.cons.injEq] at hlines
  have hinner : innerLines info o = innerLines info' o' := by
    have hsplit := congrArg (List.splitOn mark) hlines.2
    rw [List.splitOn_append_cons_self_of_not_mem (mark_notMem_innerLines h.singleLined),
      List.splitOn_append_cons_self_of_not_mem (mark_notMem_innerLines h'.singleLined)] at hsplit
    exact (List.cons.inj hsplit).1
  have hbehind : linesBehind slides o = linesBehind slides' o' := by
    rw [hinner, List.append_cancel_left_eq] at hlines
    exact (List.cons.inj hlines.2).2
  refine ⟨by rw [headerLines_eq, headerLines_eq, hinner], ?_⟩
  unfold linesBehind at hbehind
  by_cases hslides : slides = [] <;> by_cases hslides' : slides' = []
  · rw [hslides, hslides', bodies, bodies, List.mapIdx_nil, List.mapIdx_nil]
  · rw [if_pos hslides, if_neg hslides'] at hbehind
    cases hbehind
  · rw [if_neg hslides, if_pos hslides'] at hbehind
    cases hbehind
  · rw [if_neg hslides, if_neg hslides'] at hbehind
    have htext : Text.join separator (bodies slides o) = Text.join separator (bodies slides' o') := by
      rw [← join_linesOf (Text.join separator (bodies slides o)), (List.cons.inj hbehind).2,
        join_linesOf]
    rw [← splitOn_join_separator (bodies_ne_nil hslides) h.mark_notMem_bodies, htext,
      splitOn_join_separator (bodies_ne_nil hslides') h'.mark_notMem_bodies]

end Document

end SlidePress
