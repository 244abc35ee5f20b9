import SlidePress.Proofs.Document.Decoding
import SlidePress.Proofs.Text.Occurrence

/-! # Notes in their comments

The notes of a slide stand behind its body in a comment of their own, and a comment ends where it is
first closed. The text of a note is written as it is. So a comment ends where it was meant to end if
the note does not close it, and otherwise the note is cut: what it says up to that place is hidden,
and what it says behind it is shown (`exists_render_note`). -/

namespace SlidePress

namespace Document

/-! ### Neighbours -/

/-- Of joined pieces one stands between those before it and those behind it. -/
theorem joinWith_append_cons (sep : List Char) (piece : List Char) :
    ∀ us vs : List (List Char), Text.joinWith sep (us ++ piece :: vs) =
      us.flatMap (· ++ sep) ++ piece ++ vs.flatMap (sep ++ ·)
  | [], [] => by simp [Text.joinWith]
  | [], v :: vs => by
    have hvs := joinWith_append_cons sep v [] vs
    rw [List.nil_append] at hvs
    rw [List.nil_append, Text.joinWith, hvs]
    simp
  | [u], vs => by
    have hvs := joinWith_append_cons sep piece [] vs
    rw [List.nil_append] at hvs
    rw [List.singleton_append, Text.joinWith, hvs]
    simp
  | u :: u' :: us, vs => by
    rw [List.cons_append, List.cons_append, Text.joinWith, ← List.cons_append,
      joinWith_append_cons sep piece (u' :: us) vs]
    simp

/-! ### Comments -/

/-- What opens a comment. -/
def opening : List Char := "<!--".toList

/-- What closes a comment. -/
def closing : List Char := "-->".toList

/-- Where a comment ends: what it hides of the text behind its opening, and what is shown again. -/
def commentIn (cs : List Char) : Option (List Char × List Char) := Text.splitAt? closing cs

/-- A note as it stands between the opening and the closing of its comment. -/
def inComment (note : String) : List Char := '\n' :: note.toList ++ ['\n']

variable {slides : List String} {info : DeckInfo} {o : RenderOptions} {i : Nat} {body : String}

/-- What stands in front of the comment behind the body of a slide: the header, the slides before it
with their notes, and the body. -/
def beforeNote (slides : List String) (info : DeckInfo) (o : RenderOptions) (i : Nat)
    (body : String) : List Char :=
  (header info o).toList ++ "\n\n".toList ++
    ((bodies slides o).take i).flatMap (fun piece => piece.toList ++ separator.toList) ++
    body.toList ++ "\n\n".toList

/-- What stands behind the comment of a slide: the slides after it with their notes. -/
def behindNote (slides : List String) (o : RenderOptions) (i : Nat) : List Char :=
  ((bodies slides o).drop (i + 1)).flatMap fun piece => separator.toList ++ piece.toList

theorem bodies_getElem? (hbody : slides[i]? = some body) :
    (bodies slides o)[i]? = some (withNotes body (o.notes.lookup i)) := by
  rw [bodies, List.getElem?_mapIdx, hbody, Option.map_some]

theorem toList_withNotes (hnote : noteAt o i ≠ "") :
    (withNotes body (o.notes.lookup i)).toList =
      body.toList ++ "\n\n".toList ++ opening ++ inComment (noteAt o i) ++ closing := by
  have hnote' : ¬ (Text.strip ((o.notes.lookup i).getD "")).isEmpty = true := fun hempty =>
    hnote (String.isEmpty_iff.1 hempty)
  rw [withNotes, if_neg hnote']
  simp [noteAt, opening, closing, inComment]

/-- **Where a note stands** in the document. -/
theorem toList_render (hbody : slides[i]? = some body) (hnote : noteAt o i ≠ "") :
    (render slides info o).toList = beforeNote slides info o i body ++ opening ++
      (inComment (noteAt o i) ++ closing ++ behindNote slides o i) := by
  obtain ⟨hi, -⟩ := List.getElem?_eq_some_iff.1 hbody
  have hslides : slides ≠ [] := List.ne_nil_of_length_pos (Nat.zero_lt_of_lt hi)
  have hsplit : bodies slides o = (bodies slides o).take i ++
      withNotes body (o.notes.lookup i) :: (bodies slides o).drop (i + 1) := by
    obtain ⟨hlength, hget⟩ := List.getElem?_eq_some_iff.1 (bodies_getElem? (o := o) hbody)
    rw [← hget, List.getElem_cons_drop, List.take_append_drop]
  have hjoin : (Text.join separator (bodies slides o)).toList =
      ((bodies slides o).take i).flatMap (fun piece => piece.toList ++ separator.toList) ++
        (withNotes body (o.notes.lookup i)).toList ++ behindNote slides o i := by
    rw [Text.join, String.toList_ofList]
    conv_lhs => rw [hsplit]
    rw [List.map_append, List.map_cons, joinWith_append_cons, List.flatMap_map, List.flatMap_map]
    rfl
  rw [render_of_ne_nil hslides, String.toList_append, String.toList_append, hjoin,
    toList_withNotes hnote, beforeNote]
  simp only [List.append_assoc]

/-- **A comment ends** where its note closes it, or else at its own closing. -/
theorem commentIn_inComment (note : String) (behind : List Char) :
    commentIn (inComment note ++ closing ++ behind) =
      match Text.splitAt? closing note.toList with
      | some (hidden, shown) => some ('\n' :: hidden, shown ++ '\n' :: closing ++ behind)
      | none => some (inComment note, behind) := by
  have hclosing : closing ≠ [] := by decide
  have hbreak : '\n' ∉ closing := by decide
  have htext : inComment note ++ closing ++ behind =
      [] ++ '\n' :: (note.toList ++ '\n' :: (closing ++ behind)) := by simp [inComment]
  have hnil : Text.splitAt? closing [] = none := rfl
  rw [commentIn, htext, Text.splitAt?_append_cons hclosing hbreak, hnil,
    Text.splitAt?_append_cons hclosing hbreak, Text.splitAt?_of_prefix hclosing]
  cases Text.splitAt? closing note.toList <;> simp [inComment]

/-- **Notes and their comments**: every note that is not blank stands in a comment behind its body.
The comment ends with its own closing exactly if the note does not hold what closes a comment; if it
does, the comment ends there, and the rest of the note is shown. -/
theorem exists_render_note (hbody : slides[i]? = some body) (hnote : noteAt o i ≠ "") :
    (render slides info o).toList = beforeNote slides info o i body ++ opening ++
      (inComment (noteAt o i) ++ closing ++ behindNote slides o i) ∧
    (commentIn (inComment (noteAt o i) ++ closing ++ behindNote slides o i) =
        some (inComment (noteAt o i), behindNote slides o i) ↔
      ¬ closing <:+: (noteAt o i).toList) ∧
    ∀ hidden shown, Text.splitAt? closing (noteAt o i).toList = some (hidden, shown) →
      commentIn (inComment (noteAt o i) ++ closing ++ behindNote slides o i) =
        some ('\n' :: hidden, shown ++ '\n' :: closing ++ behindNote slides o i) := by
  have hclosing : closing ≠ [] := by decide
  refine ⟨toList_render hbody hnote, ?_, fun hidden shown hcut => ?_⟩
  · rw [← Text.splitAt?_eq_none_iff hclosing, commentIn_inComment]
    cases hcut : Text.splitAt? closing (noteAt o i).toList with
    | none => exact iff_of_true rfl rfl
    | some s =>
      -- what is shown of a note that is cut is longer than what stands behind its comment
      refine iff_of_false (fun h => ?_) (by simp)
      have hlength := congrArg (fun s => s.map (List.length ∘ Prod.snd)) h
      simp at hlength
      omega
  · rw [commentIn_inComment, hcut]

/-- A note that closes its comment, and one that does not. -/
def arrowOptions : RenderOptions := ⟨true, [(0, " a --> b "), (1, "->")], [], none⟩

theorem exists_render_note_arrow :
    commentIn (inComment (noteAt arrowOptions 0) ++ closing ++
        behindNote ["# 1", "# 2"] arrowOptions 0) =
      some ("\na ".toList, " b\n-->\n\n---\n\n# 2\n\n<!--\n->\n-->".toList) ∧
    commentIn (inComment (noteAt arrowOptions 1) ++ closing ++
        behindNote ["# 1", "# 2"] arrowOptions 1) = some ("\n->\n".toList, []) := by
  have hshown := @exists_render_note ["# 1", "# 2"] ⟨"T", none, none, "", none⟩ arrowOptions 0 "# 1" rfl
    (by decide +kernel)
  have hhidden := @exists_render_note ["# 1", "# 2"] ⟨"T", none, none, "", none⟩ arrowOptions 1 "# 2" rfl
    (by decide +kernel)
  have hfirst := hshown.2.2 "a ".toList " b".toList (by decide +kernel)
  have hsecond := hhidden.2.1.2 (by decide +kernel)
  exact ⟨hfirst.trans (by decide +kernel), hsecond.trans (by decide +kernel)⟩

end Document

end SlidePress
