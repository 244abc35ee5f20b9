import SlidePress.Proofs.Deck.Data
import SlidePress.Proofs.Layout.Stopping
import SlidePress.Proofs.Layout.Token
import SlidePress.Proofs.Packaged.Drafts
import SlidePress.Proofs.Packaged.Returning
import SlidePress.Proofs.Text.Occurrence
import SlidePress.Proofs.Text.Split

/-! # Table slides

A table prints the texts of its cells, and the text of null is the word for it: a table with null in
some cells comes out as the table that has this word there. With nothing in these cells it is shorter
by four characters for each (`layOut_table`). -/

namespace SlidePress

namespace Text

/-! ### Blanks at the ends -/

theorem dropWhile_append_cons {p : Char → Bool} {c : Char} (hc : p c = false) (u w : List Char) :
    (u ++ c :: w).dropWhile p = u.dropWhile p ++ c :: w := by
  induction u with
  | nil => rw [List.nil_append, List.dropWhile_cons, hc]; rfl
  | cons d u ih =>
    rw [List.cons_append, List.dropWhile_cons, List.dropWhile_cons]
    split_ifs
    · exact ih
    · rfl

/-- What begins and ends with a character that is not blank stays whole when the blanks around a text
are cut off. -/
theorem length_stripChars {t u w : List Char} (hhead : ∃ c s, t = c :: s ∧ isBlank c = false)
    (hlast : ∃ s c, t = s ++ [c] ∧ isBlank c = false) :
    (stripChars (u ++ t ++ w)).length =
      (u.dropWhile isBlank).length + t.length + (w.reverse.dropWhile isBlank).length := by
  obtain ⟨c, s, hcs, hc⟩ := hhead
  obtain ⟨s', d, hsd, hd⟩ := hlast
  have hleft : stripLeftBy isBlank (u ++ t ++ w) = u.dropWhile isBlank ++ t ++ w := by
    rw [stripLeftBy, hcs, List.append_assoc, List.cons_append, dropWhile_append_cons hc,
      List.append_assoc, List.cons_append]
  have hright : stripRightBy isBlank (u.dropWhile isBlank ++ t ++ w) =
      (w.reverse.dropWhile isBlank ++ (u.dropWhile isBlank ++ t).reverse).reverse := by
    have hreverse : (u.dropWhile isBlank ++ t).reverse = d :: (u.dropWhile isBlank ++ s').reverse := by
      rw [hsd, ← List.append_assoc, List.reverse_append]
      rfl
    rw [stripRightBy, List.reverse_append, hreverse, dropWhile_append_cons hd]
  rw [stripChars, stripBy, hleft, hright]
  simp only [List.length_reverse, List.length_append]
  omega

/-! ### Between marks -/

/-- The characters that stand around the cells of a table. -/
def cellMarks : List Char := ['|', ' ', '\n']

/-- A change of texts that leaves the marks around cells where they are and short texts as they are. -/
structure KeepsCells (f : List Char → List Char) : Prop where
  short : ∀ cs, cs.length ≤ 4 → f cs = cs
  around : ∀ u c w, c ∈ cellMarks → f (u ++ c :: w) = f u ++ c :: f w

theorem KeepsCells.replaceAll {old new : List Char} (hlength : 4 < old.length)
    (hmarks : ∀ c ∈ cellMarks, c ∉ old) : KeepsCells (replaceAll old new) :=
  have hne : old ≠ [] := List.length_pos_iff.1 (Nat.zero_lt_of_lt hlength)
  { short _ h := replaceAll_of_not_infix hne fun hinfix => absurd hinfix.length_le (by omega)
    around u c w hc := replaceAll_append_cons hne (hmarks c hc) u w }

namespace KeepsCells

variable {f g : List Char → List Char}

theorem comp (hf : KeepsCells f) (hg : KeepsCells g) : KeepsCells fun cs => g (f cs) where
  short cs h := by rw [hf.short cs h, hg.short cs h]
  around u c w hc := by rw [hf.around u c w hc, hg.around _ c _ hc]

theorem cons (hf : KeepsCells f) {c : Char} (hc : c ∈ cellMarks) (w : List Char) :
    f (c :: w) = c :: f w := by
  have h := hf.around [] c w hc
  rwa [hf.short [] (Nat.zero_le _)] at h

end KeepsCells

end Text

namespace Requests

open Text (KeepsCells)

theorem four_lt_length_tok (t : RequestKind × Nat) : 4 < (tok t).length := by
  obtain ⟨k, n⟩ := t
  have hstem : 4 < (stem k).length := by cases k <;> decide +kernel
  rw [tok_eq, List.length_append]
  exact Nat.lt_add_right _ hstem

theorem not_mem_tok {c : Char} (hc : c ∈ Text.cellMarks) (t : RequestKind × Nat) : c ∉ tok t := by
  obtain ⟨k, n⟩ := t
  have hparts : c ∉ stem k ∧ c ∉ ['_', '_', '_'] ∧ c.isDigit = false := by
    simp only [Text.cellMarks, List.mem_cons, List.not_mem_nil, or_false] at hc
    rcases hc with rfl | rfl | rfl <;> cases k <;> decide +kernel
  have hdigits : c ∉ Nat.toDigits 10 n := fun h => by
    have hdigit := Nat.isDigit_of_mem_toDigits (by decide) (by decide) h
    rw [hparts.2.2] at hdigit
    cases hdigit
  rw [tok_eq, List.mem_append, List.mem_append]
  rintro (h | h | h)
  · exact hparts.1 h
  · exact hdigits h
  · exact hparts.2.1 h

/-- The marks around cells stand in no token, so filling in answers leaves them where they are. -/
theorem keepsCells_fillFrom (answers : List String) (n : Nat) :
    KeepsCells fun cs => (fillFrom expandToken n answers (String.ofList cs)).toList := by
  induction answers generalizing n with
  | nil => exact ⟨fun cs _ => by simp, fun u c w _ => by simp⟩
  | cons a answers ih =>
    have hfirst : KeepsCells (Text.replaceAll (tok (.expand, n)) a.toList) :=
      .replaceAll (four_lt_length_tok (.expand, n)) fun c hc => not_mem_tok hc (.expand, n)
    simpa [fillFrom, Text.replace, tok, token] using hfirst.comp (ih (n + 1))

end Requests

namespace Packaged

open Template Schema Requests Text

/-! ### Rows -/

/-- The line of a row. -/
def rowLine (cells : List String) : String := "| " ++ " | ".intercalate cells ++ " |\n"

/-- The lines of some rows. -/
def rowLines (rows : List (List String)) : String := String.join (rows.map rowLine)

section

variable {f : List Char → List Char} (hf : KeepsCells f)
include hf

/-- What is changed between the marks around cells is changed cell by cell. -/
theorem intercalate_changed (cells : List String) :
    f (" | ".intercalate cells).toList =
      (" | ".intercalate (cells.map fun s => String.ofList (f s.toList))).toList := by
  induction cells with
  | nil => simpa using hf.short [] (Nat.zero_le _)
  | cons s cells ih =>
    cases cells with
    | nil => simp
    | cons s' cells =>
      have hsep : (s ++ " | " ++ " | ".intercalate (s' :: cells)).toList =
          s.toList ++ ' ' :: '|' :: ' ' :: (" | ".intercalate (s' :: cells)).toList := by simp
      rw [String.intercalate_cons_cons, hsep, hf.around _ _ _ (by simp [cellMarks]),
        hf.cons (by simp [cellMarks]), hf.cons (by simp [cellMarks]), ih]
      simp [String.intercalate_cons_cons]

theorem rowLines_changed (rows : List (List String)) (w : List Char) :
    f ((rowLines rows).toList ++ w) =
      (rowLines (rows.map fun cells => cells.map fun s => String.ofList (f s.toList))).toList ++
        f w := by
  induction rows with
  | nil => simp [rowLines]
  | cons cells rows ih =>
    have hline : (rowLines (cells :: rows)).toList ++ w = '|' :: ' ' ::
        ((" | ".intercalate cells).toList ++ ' ' :: '|' :: '\n' :: ((rowLines rows).toList ++ w)) := by
      simp [rowLines, rowLine, String.join_cons]
    rw [hline, hf.cons (by simp [cellMarks]), hf.cons (by simp [cellMarks]),
      hf.around _ _ _ (by simp [cellMarks]), hf.cons (by simp [cellMarks]),
      hf.cons (by simp [cellMarks]), ih, intercalate_changed hf]
    simp [rowLines, rowLine, String.join_cons]

end

/-- The lines of rows begin with a mark, and the last of them ends with one. -/
theorem exists_rowLines {rows : List (List String)} (hne : rows ≠ []) :
    ∃ t, (rowLines rows).toList = t ++ ['\n'] ∧ (∃ c s, t = c :: s ∧ isBlank c = false) ∧
      ∃ s c, t = s ++ [c] ∧ isBlank c = false := by
  obtain ⟨init, last, rfl⟩ : ∃ init last, rows = init ++ [last] :=
    ⟨_, _, (List.dropLast_append_getLast hne).symm⟩
  have hline : (rowLine last).toList = '|' :: (' ' :: (" | ".intercalate last).toList ++ [' ', '|'])
      ++ ['\n'] := by
    simp [rowLine]
  refine ⟨(rowLines init).toList ++ '|' :: (' ' :: (" | ".intercalate last).toList ++ [' ', '|']),
    ?_, ?_, ?_⟩
  · rw [List.append_assoc, ← hline]
    simp [rowLines, String.join_append]
  · cases init with
    | nil => exact ⟨'|', _, rfl, by decide⟩
    | cons cells init =>
      refine ⟨'|', ?_⟩
      simp [rowLines, rowLine, String.join_cons]
      decide
  · refine ⟨(rowLines init).toList ++ '|' :: ' ' :: (" | ".intercalate last).toList ++ [' '], '|',
      by simp, by decide⟩

/-! ### Lengths -/

theorem length_intercalate_map {α : Type} {g g' : α → String} {extra : α → Nat}
    (h : ∀ c, (g c).length = (g' c).length + extra c) (sep : String) (cs : List α) :
    (sep.intercalate (cs.map g)).length =
      (sep.intercalate (cs.map g')).length + (cs.map extra).sum := by
  rcases eq_or_ne cs [] with rfl | hne
  · rfl
  have hg := Text.length_intercalate sep (cs.map g) (by simpa using hne)
  have hg' := Text.length_intercalate sep (cs.map g') (by simpa using hne)
  have hsum : ((cs.map g).map fun n => n.length + sep.length).sum =
      ((cs.map g').map fun n => n.length + sep.length).sum + (cs.map extra).sum := by
    rw [List.map_map, List.map_map, ← List.sum_map_add]
    refine congrArg _ (List.map_congr_left fun c _ => ?_)
    simp only [Function.comp_apply, h c]
    omega
  omega

/-- Null. -/
def isNull : Value → Bool
  | .null => true
  | _ => false

/-- How many cells of some rows are null. -/
def nullCells (rows : List (List Value)) : Nat := (rows.map (List.countP isNull)).sum

theorem length_rowLines_map {g g' : Value → String}
    (h : ∀ c, (g c).length = (g' c).length + if isNull c then 4 else 0) (rows : List (List Value)) :
    (rowLines (rows.map (List.map g))).length =
      (rowLines (rows.map (List.map g'))).length + 4 * nullCells rows := by
  have hcount (cells : List Value) :
      (cells.map fun c => if isNull c then 4 else 0).sum = 4 * cells.countP isNull := by
    induction cells with
    | nil => rfl
    | cons c cells ih =>
      rw [List.map_cons, List.sum_cons, List.countP_cons, ih]
      split_ifs <;> omega
  induction rows with
  | nil => rfl
  | cons cells rows ih =>
    have hcells := length_intercalate_map h " | " cells
    rw [hcount] at hcells
    simp only [rowLines, rowLine, nullCells, List.map_cons, String.join_cons, String.length_append,
      List.sum_cons, hcells] at ih ⊢
    omega

/-! ### Content -/

/-- A cell, or another value where it is null. -/
def cellOr (x c : Value) : Value := if isNull c then x else c

/-- Content with these rows, where another value stands in the null cells. -/
def withCells (x : Value) (rows : List (List Value)) (es : Entries) : Entries :=
  es.insert (.str "rows") (.list (rows.map fun cells => .list (cells.map (cellOr x))))

/-- A value that is left out, null or a text. -/
def MaybeText (v : Value) : Prop := v = .undefined ∨ v = .null ∨ ∃ s, v = .str s

/-- The content of a table with these headers and rows. -/
structure Tabular (es : Entries) (hs : List String) (rows : List (List Value)) : Prop where
  data : (Value.map es).isData = true
  title : MaybeText (es.part "title")
  caption : MaybeText (es.part "caption")
  nonempty : hs ≠ []
  headers : es.part "headers" = .list (hs.map .str)
  rows : es.part "rows" = .list (rows.map .list)

variable {es : Entries} {hs : List String} {rows : List (List Value)}

/-- Content that fits the schema of tables is that of a table. -/
theorem exists_tabular (hes : (Value.map es).isData = true) (hnests : Value.nestsEntries es = false)
    (h : Conforms (.map table.schema) (.map es)) : ∃ hs rows, Tabular es hs rows := by
  have htext {name : String} (hp : (name, text) ∈ _) : MaybeText (es.part name) :=
    (str_of_conforms h hes hp).imp_right (Or.imp_right fun ⟨s, _, hs, _⟩ => ⟨s, hs⟩)
  obtain ⟨xs, hheaders, -⟩ := list_of_required (d := text) h hnests bounds_some
    (by simp [text, kind]) (by simp : ("headers", listOf some_ text) ∈ _) (by simp)
  obtain ⟨ys, hrows, -⟩ := list_of_required (d := kind "array") h hnests bounds_nil
    (by simp [kind]) (by simp : ("rows", listOf [] (kind "array")) ∈ _) (by simp)
  obtain ⟨hs, rfl⟩ : ∃ hs : List String, xs = hs.map .str := exists_map_eq fun x hx => by
    obtain ⟨-, -, zs, hconforms⟩ := item_of_conforms h bounds_some (by simp [text, kind])
      (by simp : ("headers", listOf some_ text) ∈ _) hnests (by rw [hheaders]; rfl) hx
    obtain ⟨s, hs⟩ := conforms_text.1 hconforms
    rw [Value.text?_outOf rfl, Value.text?_outOf rfl] at hs
    exact ⟨s, Value.eq_str_of_text?
      (Entries.isData_of_mem_items_part hes (by rw [hheaders]; rfl) hx) hs⟩
  obtain ⟨rows, rfl⟩ : ∃ rows : List (List Value), ys = rows.map .list := exists_map_eq fun y hy =>
    (row_of_conforms h hnests hrows hy).imp fun cells h => h.1
  refine ⟨hs, rows, hes, htext (by simp), htext (by simp), ?_, hheaders, hrows⟩
  rcases part_of_conforms h (p := ("headers", listOf some_ text)) (by simp) with hp | hp | ⟨-, hp⟩
  · rw [hheaders] at hp
    cases hp
  · rw [hheaders] at hp
    cases hp
  · rw [hheaders] at hp
    obtain ⟨zs, hzs, hne, -⟩ := (conforms_listOf_some (by simp [text, kind])).1 hp
    rintro rfl
    cases hzs
    exact hne rfl

theorem conforms_kind_array (xs : List Value) : Conforms (kind "array") (.list xs) :=
  (conforms_array_iff (fun _ h => by cases h.1) rfl).2
    ⟨xs, rfl, fun h => absurd rfl h, fun _ h => (by cases h), fun _ h => (by cases h)⟩

namespace Tabular

theorem get?_eq {name : String} {v : Value} (h : es.part name = v) (hv : v ≠ .undefined) :
    es.get? name = some v := by
  unfold Entries.part at h
  cases hget : es.get? name with
  | none =>
    rw [hget] at h
    exact absurd h.symm hv
  | some w =>
    rw [hget] at h
    exact congrArg some h

/-- The content of a table fits the schema of tables. -/
theorem conforms (h : Tabular es hs rows) : Conforms (.map table.schema) (.map es) := by
  have hpart {name : String} {v : Value} (hv : es.get? name = some v) : es.part name = v := by
    rw [Entries.part, hv]
    rfl
  have htext {name : String} {v : Value} (hmaybe : MaybeText (es.part name))
      (hv : es.get? name = some v) (hnull : Value.outOf (.map es) 0 v ≠ .null) :
      Conforms text (Value.outOf (.map es) 0 v) := by
    obtain ⟨k, hk⟩ := Entries.mem_of_find? hv
    have hdata := (Value.entriesData_iff.1 h.data _ hk).2
    rw [hpart hv] at hmaybe
    rcases hmaybe with rfl | rfl | ⟨s, rfl⟩
    · cases hdata
    · exact absurd rfl hnull
    · exact conforms_text.2 ⟨s, rfl⟩
  refine conforms_fields.2 ⟨es, rfl, fun p hp x hx => ?_, fun name hname => ?_⟩
  · obtain ⟨v, hv, rfl, hnull⟩ := present?_members_eq_some.1 hx
    simp only [List.mem_cons, List.not_mem_nil, or_false] at hp
    rcases hp with rfl | rfl | rfl | rfl
    · exact htext h.title hv hnull
    · obtain rfl := h.headers.symm.trans (hpart hv)
      rw [outOf_texts]
      exact conforms_texts h.nonempty
    · obtain rfl := h.rows.symm.trans (hpart hv)
      refine (conforms_listOf_nil (by simp [kind])).2 ⟨_, rfl, fun x hx => ?_⟩
      rw [Value.members, Value.outOfList_eq_map, Value.outOfList_eq_map, List.map_map,
        List.map_map] at hx
      obtain ⟨cells, -, rfl⟩ := List.mem_map.1 hx
      exact conforms_kind_array _
    · exact htext h.caption hv hnull
  · rcases List.mem_pair.1 hname with rfl | rfl
    · exact isSome_present?_members (get?_eq h.headers (by simp)) (by simp [Value.outOf])
    · exact isSome_present?_members (get?_eq h.rows (by simp)) (by simp [Value.outOf])

theorem part_insert (es : Entries) (key : String) (v : Value) (name : String) :
    Entries.part (es.insert (.str key) v) name = if key = name then v else es.part name := by
  have hkey : (Value.str key).text? = some name ↔ key = name := Option.some_inj
  unfold Entries.part
  rw [Entries.get?_insert]
  simp only [hkey]
  split_ifs <;> rfl

/-- Nothing but the rows is changed. -/
theorem part_withCells (x : Value) (rows : List (List Value)) (es : Entries) {name : String}
    (hname : name ≠ "rows") : (Packaged.withCells x rows es).part name = es.part name :=
  (part_insert ..).trans (if_neg hname.symm)

theorem isData_cells (h : Tabular es hs rows) (s : String) :
    (Value.list (rows.map fun cells => .list (cells.map (cellOr (.str s))))).isData = true := by
  refine Value.allData_iff.2 (List.forall_mem_map.2 fun cells hcells => ?_)
  refine Value.allData_iff.2 (List.forall_mem_map.2 fun c hc => ?_)
  have hrow : (Value.list cells).isData = true := Entries.isData_of_mem_items_part h.data
    (by rw [h.rows]; rfl) (List.mem_map_of_mem hcells)
  unfold cellOr
  split_ifs
  · rfl
  · exact Value.allData_iff.1 hrow c hc

/-- Other values that are texts in the null cells make another table with the same headers. -/
theorem withCells (h : Tabular es hs rows) (s : String) :
    Tabular (withCells (.str s) rows es) hs (rows.map (List.map (cellOr (.str s)))) := by
  have hrows : (Packaged.withCells (.str s) rows es).part "rows" =
      .list (rows.map fun cells => .list (cells.map (cellOr (.str s)))) :=
    (part_insert ..).trans (if_pos rfl)
  refine ⟨Entries.isData_insert rfl (h.isData_cells s) h.data, ?_, ?_, h.nonempty, ?_, ?_⟩
  · rw [part_withCells _ _ _ (by decide)]
    exact h.title
  · rw [part_withCells _ _ _ (by decide)]
    exact h.caption
  · rw [part_withCells _ _ _ (by decide)]
    exact h.headers
  · rw [hrows, List.map_map]
    rfl

/-! ### The draft -/

end Tabular

/-- The lines of a table above its rows, but for the end of the last. -/
def tableHead (es : Entries) (hs : List String) : String :=
  titleLine es ++ "\n| " ++ " | ".intercalate hs ++ " |\n|" ++ String.join (hs.map fun _ => " --- |")

/-- What stands behind the rows of a table, where the caption is the first text to expand. -/
def tableFoot (es : Entries) : String :=
  if (es.part "caption").truthy then "\n*" ++ expandToken 0 ++ "*\n" else ""

/-- What a table asks for. -/
def tableRequests (es : Entries) : Requests :=
  ⟨[], [], if (es.part "caption").truthy then [textToExpand (es.part "caption")] else []⟩

namespace Tabular

theorem forEach_rows (k : Nat) (rows : List (List Value)) :
    forEach (σ := Requests) (fun _ row => do return "| " ++ (← Talk.joined " | " row) ++ " |\n") k
      (rows.map .list) = return rowLines (rows.map (List.map Value.text)) := by
  induction rows generalizing k with
  | nil => rfl
  | cons cells rows ih =>
    rw [List.map_cons, forEach, ih, rowLines, rowLines, List.map_cons, List.map_cons,
      String.join_cons]
    rfl

/-- A table prints its head, its rows and its caption. -/
theorem tableTalk_eq (h : Tabular es hs rows) : tableTalk es Requests.empty =
    .ok (tableHead es hs ++ "\n" ++ rowLines (rows.map (List.map Value.text)) ++ tableFoot es,
      tableRequests es) := by
  have hitems (g : Nat → Value → Talk Requests String) (xs : List Value) :
      Talk.overItems g (.list xs) = forEach g 0 xs := rfl
  have hheaders : Talk.joined " | " (.list (hs.map .str)) =
      (return " | ".intercalate hs : Talk Requests String) := by
    have htexts : (hs.map Value.str).map Value.text = hs := by
      rw [List.map_map]
      exact List.map_id _
    show (return " | ".intercalate ((hs.map Value.str).map Value.text) : Talk Requests String) = _
    rw [htexts]
  rw [tableTalk, h.headers, h.rows, hheaders, hitems, hitems, forEach_pure, forEach_rows, List.map_map]
  unfold tableHead tableFoot tableRequests Talk.given
  simp only [pure_bind]
  split_ifs <;> rfl

variable {press : Press} {s : Slide}

/-- **The draft of a table.** -/
theorem draft_eq (h : Tabular s.content hs rows) (hstep : press.templates.InStep)
    (hget : press.templates.get? s.template = some table) (place : SlidePlace) :
    press.draft place s =
      .ok (tableHead s.content hs ++ "\n" ++ rowLines (rows.map (List.map Value.text)) ++
        tableFoot s.content, tableRequests s.content) := by
  refine (draft_eq_ok_iff hstep (by simp [definitions]) hget).2 ⟨h.conforms, ?_⟩
  rw [run_of_amountsTo (parse_eq_ok (by simp [trees])) (table_amounts h.data), h.tableTalk_eq]
  rfl

/-- Other values in the null cells change the rows of the draft and nothing else. -/
theorem draft_withCells (h : Tabular s.content hs rows) (hstep : press.templates.InStep)
    (hget : press.templates.get? s.template = some table) (place : SlidePlace) (t : String) :
    press.draft place { s with content := Packaged.withCells (.str t) rows s.content } =
      .ok (tableHead s.content hs ++ "\n" ++
        rowLines ((rows.map (List.map (cellOr (.str t)))).map (List.map Value.text)) ++
        tableFoot s.content, tableRequests s.content) := by
  rw [draft_eq (s := { s with content := Packaged.withCells (.str t) rows s.content })
    (h.withCells t) hstep hget place]
  unfold tableHead tableFoot tableRequests titleLine
  rw [part_withCells _ _ _ (by decide), part_withCells _ _ _ (by decide)]

end Tabular

/-! ### The slide -/

/-- The length of a table without the blanks around it is that of its rows and something that does not
depend on them. -/
theorem length_stripChars_table {f : List Char → List Char} (hf : KeepsCells f)
    (front head foot : List Char) {R : List (List String)} (hne : R ≠ []) :
    (stripChars (front ++ f (head ++ '\n' :: ((rowLines R).toList ++ foot)))).length + 1 =
      ((front ++ f head ++ ['\n']).dropWhile isBlank).length +
      (rowLines (R.map (List.map fun s => String.ofList (f s.toList)))).length +
      (('\n' :: f foot).reverse.dropWhile isBlank).length := by
  have hmap : R.map (List.map fun s => String.ofList (f s.toList)) ≠ [] := by simpa using hne
  obtain ⟨t, ht, hhead, hlast⟩ := exists_rowLines hmap
  have hsplit : front ++ f (head ++ '\n' :: ((rowLines R).toList ++ foot)) =
      (front ++ f head ++ ['\n']) ++ t ++ '\n' :: f foot := by
    rw [hf.around _ _ _ (by simp [cellMarks]), rowLines_changed hf, ht]
    simp
  have hlength : (rowLines (R.map (List.map fun s => String.ofList (f s.toList)))).length =
      t.length + 1 := by
    rw [← String.length_toList, ht, List.length_append]
    rfl
  rw [hsplit, length_stripChars hhead hlast, hlength]
  omega

theorem map_cellOr_of_nullCells {rows : List (List Value)} (h : nullCells rows = 0) (x : Value) :
    rows.map (List.map (cellOr x)) = rows := by
  refine (List.map_congr_left fun cells hcells => ?_).trans (List.map_id rows)
  have hcount : cells.countP isNull = 0 :=
    List.sum_eq_zero_iff.1 h _ (List.mem_map_of_mem hcells)
  refine (List.map_congr_left fun c hc => ?_).trans (List.map_id cells)
  exact if_neg (List.countP_eq_zero.1 hcount c hc)

/-- The word for null is the text of null. -/
theorem map_text_cellOr (rows : List (List Value)) :
    (rows.map (List.map (cellOr (.str "None")))).map (List.map Value.text) =
      rows.map (List.map Value.text) := by
  rw [List.map_map]
  refine List.map_congr_left fun cells _ => ?_
  rw [Function.comp_apply, List.map_map]
  refine List.map_congr_left fun c _ => ?_
  cases c <;> rfl

/-- Rows where nothing stands for null are shorter by the word for it. -/
theorem length_rowLines_cells {f : List Char → List Char} (hf : KeepsCells f)
    (rows : List (List Value)) :
    (rowLines ((rows.map (List.map Value.text)).map
      (List.map fun s => String.ofList (f s.toList)))).length =
    (rowLines (((rows.map (List.map (cellOr (.str "")))).map (List.map Value.text)).map
      (List.map fun s => String.ofList (f s.toList)))).length + 4 * nullCells rows := by
  have hcell (c : Value) : (String.ofList (f c.text.toList)).length =
      (String.ofList (f (cellOr (.str "") c).text.toList)).length + if isNull c then 4 else 0 := by
    cases c with
    | null =>
      show (String.ofList (f "None".toList)).length = (String.ofList (f "".toList)).length + 4
      rw [hf.short _ (by decide), hf.short _ (by decide)]
      rfl
    | _ => rfl
  have hlength := length_rowLines_map hcell rows
  simpa only [List.map_map, Function.comp_def] using hlength

/-- Whether requests are answered does not depend on the draft. -/
theorem ending_resolve_eq_error {press : Press} {pace : Pace} {r : Requests} {draft : String}
    {e : Halt SlideError} (h : (r.resolve press pace draft).ending = .error e) (draft' : String) :
    (r.resolve press pace draft').ending = .error e := by
  unfold resolve resolveWith at h ⊢
  simp only [Course.ending_bind, Course.ending_pure] at h ⊢
  cases hi : (Course.round (pace .icon) ((r.calls .icon).map fun c =>
    (c, press.answer c))).ending with
  | error e' =>
    rw [hi] at h
    exact h
  | ok icons =>
    cases hc : (Course.round (pace .cite) ((r.calls .cite).map fun c =>
      (c, press.answer c))).ending with
    | error e' =>
      rw [hi, hc] at h
      exact h
    | ok cites =>
      cases he : (Course.round (pace .expand) ((r.calls .expand).map fun c =>
        (c, press.answer c))).ending with
      | error e' =>
        rw [hi, hc, he] at h
        exact h
      | ok expands =>
        rw [hi, hc, he] at h
        cases h

/-- The line of the class of a slide, if it has one. -/
def classLine (cssClass : Option String) : String :=
  let name := cssClass.getD ""
  if name.isEmpty then "" else "<!-- _class: " ++ name ++ " -->\n"

theorem finished_eq (cssClass : Option String) (body : String) :
    Press.finished cssClass body = Text.strip (classLine cssClass ++ body) := by
  unfold Press.finished classLine
  dsimp only
  split_ifs
  · rw [String.empty_append]
  · rfl

/-- With answers to what a table asks for, the table is longer than the one with nothing in its null
cells, by four characters for each of these. -/
theorem length_finished_table (print : Call → String) (cssClass : Option String) (es : Entries)
    (head : String) {rows : List (List Value)} (hne : rows ≠ []) :
    (Press.finished cssClass (Press.filledWith print
      (head ++ "\n" ++ rowLines (rows.map (List.map Value.text)) ++ tableFoot es)
      (tableRequests es))).length =
    (Press.finished cssClass (Press.filledWith print
      (head ++ "\n" ++ rowLines ((rows.map (List.map (cellOr (.str "")))).map (List.map Value.text)) ++
        tableFoot es) (tableRequests es))).length + 4 * nullCells rows := by
  have hf := keepsCells_fillFrom (((tableRequests es).calls .expand).map print) 0
  have hbody (R : List (List String)) : (Press.finished cssClass (Press.filledWith print
      (head ++ "\n" ++ rowLines R ++ tableFoot es) (tableRequests es))).length =
      (stripChars ((classLine cssClass).toList ++
        (fillFrom expandToken 0 (((tableRequests es).calls .expand).map print)
          (String.ofList (head.toList ++ '\n' :: ((rowLines R).toList ++
            (tableFoot es).toList)))).toList)).length := by
    have hdraft : String.ofList (head.toList ++ '\n' :: ((rowLines R).toList ++
        (tableFoot es).toList)) = head ++ "\n" ++ rowLines R ++ tableFoot es :=
      String.toList_inj.1 (by simp)
    rw [hdraft, finished_eq, Text.strip, String.length_ofList, String.toList_append]
    rfl
  have hlong := length_stripChars_table hf (classLine cssClass).toList head.toList
    (tableFoot es).toList (R := rows.map (List.map Value.text)) (by simpa using hne)
  have hshort := length_stripChars_table hf (classLine cssClass).toList head.toList
    (tableFoot es).toList (R := (rows.map (List.map (cellOr (.str "")))).map (List.map Value.text))
    (by simpa using hne)
  have hrows := length_rowLines_cells hf rows
  rw [hbody, hbody]
  omega

/-- **Null cells.** A table comes out as the one that has the word for null in its null cells. The
table with nothing in these cells fails where it fails, and where they come out it is shorter by four
characters for each null cell, so the two are the same exactly if no cell is null. -/
theorem layOut_table {press : Press} (hstep : press.templates.InStep) {s : Slide}
    (hraw : s.isRaw = false) (hget : press.templates.get? s.template = some table)
    (hes : (Value.map s.content).isData = true) (hnests : Value.nestsEntries s.content = false)
    (hfits : ∃ verdict, Schema.validate (.map table.schema) (.map s.content) = .ok verdict ∧
      verdict.valid = true) (pace : Pace) (place : SlidePlace) :
    ∃ rows : List (List Value), s.content.part "rows" = .list (rows.map .list) ∧
      press.layOut pace place { s with content := withCells (.str "None") rows s.content } =
        press.layOut pace place s ∧
      ((∃ e, (press.layOut pace place s).ending = .error e ∧
        (press.layOut pace place
          { s with content := withCells (.str "") rows s.content }).ending = .error e) ∨
      ∃ body body', (press.layOut pace place s).ending = .ok body ∧
        (press.layOut pace place
          { s with content := withCells (.str "") rows s.content }).ending = .ok body' ∧
        body.length = body'.length + 4 * nullCells rows ∧
        (body = body' ↔ nullCells rows = 0)) := by
  obtain ⟨verdict, hverdict, hvalid⟩ := hfits
  obtain ⟨verdict', hverdict', hiff⟩ :=
    (wellFormed_schema (d := table) (by simp [definitions])).exists_validate (.map s.content)
  obtain rfl := Except.ok.inj (hverdict.symm.trans hverdict')
  obtain ⟨hs, rows, h⟩ := exists_tabular hes hnests (hiff.1 hvalid)
  have hdraft := h.draft_eq hstep hget place
  have hnone := h.draft_withCells hstep hget place "None"
  have hempty := h.draft_withCells hstep hget place ""
  have hraws (t : String) :
      ¬ ({ s with content := withCells (.str t) rows s.content } : Slide).isRaw = true := by
    rw [show ({ s with content := withCells (.str t) rows s.content } : Slide).isRaw = s.isRaw from rfl,
      hraw]
    decide
  refine ⟨rows, h.rows, ?_, ?_⟩
  · rw [map_text_cellOr] at hnone
    unfold Press.layOut
    rw [if_neg (hraws "None"), if_neg (by simp [hraw]), hnone, hdraft]
  · have hends : (press.layOut pace place s).ending = _ :=
      Press.ending_layOut_of_draft (by simp [hraw]) hdraft
    have hends' : (press.layOut pace place
        { s with content := withCells (.str "") rows s.content }).ending = _ :=
      Press.ending_layOut_of_draft (hraws "") hempty
    rw [hends, hends']
    cases hresolve : ((tableRequests s.content).resolve press pace (tableHead s.content hs ++ "\n" ++
        rowLines (rows.map (List.map Value.text)) ++ tableFoot s.content)).ending with
    | error e => exact .inl ⟨e, rfl, by rw [ending_resolve_eq_error hresolve]; rfl⟩
    | ok text =>
      obtain ⟨hanswers, rfl⟩ := Press.ending_resolve_eq_ok.1 hresolve
      have hresolve' : ((tableRequests s.content).resolve press pace (tableHead s.content hs ++ "\n" ++
          rowLines ((rows.map (List.map (cellOr (.str "")))).map (List.map Value.text)) ++
          tableFoot s.content)).ending = .ok _ :=
        Press.ending_resolve_eq_ok.2 ⟨hanswers, rfl⟩
      rw [hresolve']
      refine .inr ⟨_, _, rfl, rfl, ?_⟩
      by_cases hzero : nullCells rows = 0
      · rw [map_cellOr_of_nullCells hzero]
        exact ⟨by rw [hzero, Nat.mul_zero, Nat.add_zero], iff_of_true rfl hzero⟩
      · have hne : rows ≠ [] := by
          rintro rfl
          exact hzero rfl
        have hlength := length_finished_table press.answerText s.cssClass s.content
          (tableHead s.content hs) hne
        refine ⟨hlength, iff_of_false (fun hbody => hzero ?_) hzero⟩
        have hfour := Nat.left_eq_add.1 ((congrArg String.length hbody).symm.trans hlength)
        omega

/-- A table with a null cell. -/
def gapSlide : Slide :=
  ⟨"table", Entries.ofNames [("headers", .list [.str "a", .str "b"]),
    ("rows", .list [.list [.null, .str "x"]])], none, none, none⟩

/-- The packaged templates, with no icons and no references. -/
def plainPress : Press :=
  Press.of (register Registry.empty).1 (fun _ => .error .endless) .default Shelf.empty.source

theorem layOut_gapSlide :
    ∃ body, (plainPress.layOut Pace.even alone gapSlide).ending =
        .ok "| a | b |\n| --- | --- |\n| None | x |" ∧
      (plainPress.layOut Pace.even alone { gapSlide with
        content := withCells (.str "") [[.null, .str "x"]] gapSlide.content }).ending = .ok body ∧
      "| a | b |\n| --- | --- |\n| None | x |".length = body.length + 4 := by
  have hget : plainPress.templates.get? gapSlide.template = some table :=
    get?_register_empty (d := table) (by simp [definitions])
  have htable : Tabular gapSlide.content ["a", "b"] [[.null, .str "x"]] :=
    ⟨by decide, .inl rfl, .inl rfl, by decide, rfl, rfl⟩
  have hends : (plainPress.layOut Pace.even alone gapSlide).ending =
      .ok "| a | b |\n| --- | --- |\n| None | x |" := by
    have hdraft : plainPress.draft alone gapSlide = _ :=
      htable.draft_eq inStep_register_empty hget alone
    rw [Press.ending_layOut_of_draft (by decide) hdraft, Press.ending_resolve_eq_ok.2
      ⟨fun c hc => absurd hc List.not_mem_nil, rfl⟩]
    exact congrArg Except.ok (by decide +kernel)
  have hstep : plainPress.templates.InStep := inStep_register_empty
  obtain ⟨rows, hrows, -, hlayOut⟩ := layOut_table hstep (s := gapSlide) rfl hget htable.data
    (by decide)
    (exists_verdict table gapSlide.content (by decide +kernel)) Pace.even alone
  obtain rfl : [[.null, .str "x"]] = rows := by
    refine List.map_injective_iff.2 (fun _ _ => Value.list.inj) ?_
    exact Value.list.inj (htable.rows.symm.trans hrows)
  rcases hlayOut with ⟨e, he, -⟩ | ⟨body, body', hbody, hbody', hlength, -⟩
  · rw [hends] at he
    cases he
  · rw [hends] at hbody
    cases hbody
    exact ⟨body', hends, hbody', hlength⟩

end Packaged

end SlidePress
