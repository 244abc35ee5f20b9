import SlidePress.Presentation
import SlidePress.Proofs.Yaml.Leading
import SlidePress.Proofs.Yaml.Quoted

/-! # Reading a value of the header back

A text that is put in quotes is one scalar in double quotes. Double quotes in it are escaped, backslashes
are not, and the reader takes a backslash for the beginning of an escape. So the texts that are read back
are those without backslashes (`load_value_iff`). -/

namespace SlidePress.Header

open Yaml (Cursor IsInline escaped)

variable {v : String}

theorem toList_value (h : v.toList.any needsQuotes = true) :
    (value (.str v)).toList = '"' :: (escaped v.toList ++ ['"']) := by
  have hvalue : value (.str v) = String.ofList (quoted v.toList) := if_pos h
  rw [hvalue, String.toList_ofList]
  rfl

/-- What may stand in a text may be put in quotes. -/
theorem refused_value (h : v.toList.any needsQuotes = true) (hv : ∀ a ∈ v.toList, IsInline a) :
    Yaml.refused (value (.str v)) = false := by
  rw [Yaml.refused, toList_value h, List.any_eq_false]
  have hquote : ¬ (!Yaml.isAllowed '"') = true := by decide
  refine List.forall_mem_cons.2 ⟨hquote, fun a ha => ?_⟩
  rcases List.mem_append.1 ha with ha | ha
  · rcases Yaml.mem_of_mem_escaped ha with rfl | rfl | ha
    · decide
    · exact hquote
    · rw [(hv a ha).1]
      decide
  · rw [List.mem_singleton.1 ha]
    exact hquote

/-- **A text in quotes is read back** exactly if there is no backslash in it: by the reader of scalars in
double quotes, which comes to the end of the text, and by the reader of whole texts. -/
theorem load_value_iff (h : v.toList.any needsQuotes = true) (hv : ∀ a ∈ v.toList, IsInline a) :
    ((∃ c, Yaml.quoted? (Cursor.start (value (.str v))) = .ok (v.toList, c) ∧ c.rest = []) ↔
      '\\' ∉ v.toList) ∧
    (Yaml.load (value (.str v)) = .ok (.str v) ↔ '\\' ∉ v.toList) := by
  have hs := toList_value h
  have hstart : Cursor.start (value (.str v)) = ⟨'"' :: (escaped v.toList ++ ['"']), 0, 0, 0⟩ := by
    rw [Cursor.start, hs]
  have hread : '\\' ∉ v.toList → ∃ c, Yaml.quoted? ⟨'"' :: (escaped v.toList ++ ['"']), 0, 0, 0⟩ =
      .ok (v.toList, c) ∧ c.rest = [] := Yaml.quoted?_escaped hv
  rw [hstart]
  refine ⟨⟨?_, hread⟩, fun hload => ?_, fun hback => ?_⟩
  · rintro ⟨c, hc, -⟩
    exact Yaml.notMem_of_quoted? hv hc
  · obtain ⟨c, hc⟩ := Yaml.exists_of_load_eq_str hs hload
    exact Yaml.notMem_of_quoted? hv hc
  · obtain ⟨c, hc, hend⟩ := hread hback
    rw [Yaml.load_of_quoted hs (refused_value h hv) hc hend, String.ofList_toList]

/-- Quotes are read back, a path with a backslash is not. -/
theorem load_value_greeting :
    Yaml.load (value (.str "say \"hi\": now")) = .ok (.str "say \"hi\": now") ∧
      Yaml.load (value (.str "C:\\notes")) ≠ .ok (.str "C:\\notes") := by
  have hgreeting : ∀ a ∈ "say \"hi\": now".toList, IsInline a :=
    List.forall_iff_forall_mem.1 (by decide +kernel)
  have hpath : ∀ a ∈ "C:\\notes".toList, IsInline a :=
    List.forall_iff_forall_mem.1 (by decide +kernel)
  exact ⟨(load_value_iff (by decide +kernel) hgreeting).2.2 (by decide +kernel),
    fun hload => (load_value_iff (by decide +kernel) hpath).2.1 hload (by decide +kernel)⟩

end SlidePress.Header
