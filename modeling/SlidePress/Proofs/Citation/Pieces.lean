import SlidePress.Proofs.Citation.Expressions
import SlidePress.Proofs.Citation.Scanning
import SlidePress.Proofs.Pattern.Language

/-! # What the expression for groups stands for

The texts of the expression between the brackets of a group are those that the grammar takes for
mentions between semicolons. The expression lets blanks stand behind a comma and in front of a mention;
those behind a comma belong to the place as well, so that there they are no matter, and the grammar
drops the others.

* `mentionOf?_eq_some_iff`: a mention, said with its name and its place.
* `mem_mentionsPattern`: what the brackets may enclose. -/

namespace SlidePress.Citation

open Pattern (language languageSeq inSet more mem_more_characters mem_cons_languageSeq
  mem_nil_languageSeq)

/-! ### Texts of the parts -/

theorem inSet_single {c d : Char} : inSet false false [.single c] d = true ↔ d = c := by
  simp only [inSet, Pattern.Class.holds, List.any_cons, List.any_nil, Bool.or_false, Bool.bne_false,
    Bool.false_eq_true, if_false, beq_iff_eq]
  exact eq_comm

theorem inSet_name (c : Char) :
    inSet false false [.kind .word false false, .single '-'] c = isIdChar c := by
  simp [inSet, Pattern.Class.holds, Pattern.Kind.holds, isIdChar, Bool.beq_comm]

theorem inSet_blank (c : Char) : inSet false false [.kind .blank false false] c = Text.isBlank c := by
  simp [inSet, Pattern.Class.holds, Pattern.Kind.holds]

theorem inSet_place {c : Char} :
    inSet true false [.single ';', .single ']'] c = true ↔ c ≠ ';' ∧ c ≠ ']' := by
  simp only [inSet, Pattern.Class.holds, List.any_cons, List.any_nil, Bool.or_false, Bool.bne_true,
    Bool.false_eq_true, if_false, Bool.not_or, Bool.and_eq_true, Bool.not_eq_true', beq_eq_false_iff_ne]
  exact and_congr ne_comm ne_comm

theorem mem_character {c : Char} {w : List Char} : w ∈ (character c).language ↔ w = [c] := by
  constructor
  · rintro ⟨d, rfl, hd⟩
    rw [inSet_single.1 hd]
  · rintro rfl
    exact ⟨c, rfl, inSet_single.2 rfl⟩

theorem mem_nameCharacters {w : List Char} :
    w ∈ nameCharacters.language ↔ w ≠ [] ∧ ∀ c ∈ w, isIdChar c = true := by
  refine mem_more_characters.trans ?_
  simp only [inSet_name, Nat.one_le_iff_ne_zero, ne_eq, List.length_eq_zero_iff]

theorem mem_blanks {w : List Char} : w ∈ blanks.language ↔ ∀ c ∈ w, Text.isBlank c = true := by
  refine mem_more_characters.trans ?_
  simp only [inSet_blank, Nat.zero_le, true_and]

/-- Nothing in a text ends a mention or a group. -/
def Unbroken (w : List Char) : Prop := ∀ c ∈ w, c ≠ ';' ∧ c ≠ ']'

theorem unbroken_iff {w : List Char} : Unbroken w ↔ ';' ∉ w ∧ ']' ∉ w := by
  constructor
  · exact fun h => ⟨fun hc => (h _ hc).1 rfl, fun hc => (h _ hc).2 rfl⟩
  · rintro ⟨hs, hb⟩ c hc
    exact ⟨fun h => hs (h ▸ hc), fun h => hb (h ▸ hc)⟩

theorem unbroken_nil : Unbroken [] := List.forall_mem_nil _

theorem unbroken_append {u v : List Char} : Unbroken (u ++ v) ↔ Unbroken u ∧ Unbroken v :=
  List.forall_mem_append

theorem unbroken_cons {c : Char} {w : List Char} :
    Unbroken (c :: w) ↔ (c ≠ ';' ∧ c ≠ ']') ∧ Unbroken w :=
  List.forall_mem_cons

theorem unbroken_of_name {w : List Char} (h : ∀ c ∈ w, isIdChar c = true) : Unbroken w := by
  refine unbroken_iff.2 ⟨fun hc => ?_, fun hc => ?_⟩
  · exact absurd (h _ hc) (by decide)
  · exact absurd (h _ hc) (by decide)

theorem unbroken_of_blank {w : List Char} (h : ∀ c ∈ w, Text.isBlank c = true) : Unbroken w := by
  refine unbroken_iff.2 ⟨fun hc => ?_, fun hc => ?_⟩
  · exact absurd (h _ hc) (by decide)
  · exact absurd (h _ hc) (by decide)

theorem mem_placeCharacters {w : List Char} :
    w ∈ placeCharacters.language ↔ w ≠ [] ∧ Unbroken w := by
  refine mem_more_characters.trans ?_
  simp only [inSet_place, Nat.one_le_iff_ne_zero, ne_eq, List.length_eq_zero_iff, Unbroken]

theorem mem_possibly {ps : List Pattern} {w : List Char} :
    w ∈ (possibly ps).language ↔ w = [] ∨ w ∈ languageSeq ps := by
  constructor
  · rintro ⟨k, -, hk, hw⟩
    have := hk 1 rfl
    obtain rfl | rfl : k = 0 ∨ k = 1 := by omega
    · rw [pow_zero] at hw
      exact Or.inl hw
    · rw [pow_one] at hw
      exact Or.inr hw
  · rintro (rfl | hw)
    · exact ⟨0, le_rfl, by simp, by rw [pow_zero]; rfl⟩
    · exact ⟨1, by omega, by simp, by rw [pow_one]; exact hw⟩

/-- What is behind the name of a mention: nothing, or a comma and where to look. -/
def Trails (tail place : List Char) : Prop :=
  tail = [] ∧ place = [] ∨ tail = ',' :: place ∧ place ≠ []

/-- Blanks behind the comma are no matter: there is something, blanks or not. -/
theorem mem_possibly_locator {w : List Char} :
    w ∈ (possibly [character ',', blanks, placeCharacters]).language ↔
      ∃ place, Trails w place ∧ Unbroken place := by
  rw [mem_possibly]
  simp only [mem_cons_languageSeq, mem_nil_languageSeq, mem_character, mem_blanks,
    mem_placeCharacters]
  constructor
  · rintro (rfl | ⟨_, _, rfl, rfl, b, _, rfl, hb, place, _, rfl, ⟨hne, hplace⟩, rfl⟩)
    · exact ⟨[], Or.inl ⟨rfl, rfl⟩, unbroken_nil⟩
    · refine ⟨b ++ place, Or.inr ⟨by simp, by simp [hne]⟩, ?_⟩
      exact unbroken_append.2 ⟨unbroken_of_blank hb, hplace⟩
  · rintro ⟨place, ⟨rfl, -⟩ | ⟨rfl, hne⟩, hplace⟩
    · exact Or.inl rfl
    · exact Or.inr ⟨[','], place, rfl, rfl, [], place, rfl, by simp, place, [], by simp,
        ⟨hne, hplace⟩, rfl⟩

/-! ### Mentions -/

/-- A text is a mention of a name, with where to look. -/
def Mentions (w id place : List Char) : Prop :=
  ∃ tail, w = '@' :: (id ++ tail) ∧ id ≠ [] ∧ (∀ c ∈ id, isIdChar c = true) ∧ Trails tail place

theorem Trails.not_isIdChar {tail place rest : List Char} (h : Trails tail place)
    (hrest : ∀ c ∈ rest.head?, c = ';') : ∀ c ∈ (tail ++ rest).head?, isIdChar c = false := by
  obtain ⟨rfl, -⟩ | ⟨rfl, -⟩ := h
  · intro c hc
    rw [hrest c hc]
    decide
  · rintro c ⟨⟩
    decide

/-- The grammar of mentions. -/
theorem mentionOf?_eq_some_iff {w : List Char} {m : Mention} : mentionOf? w = some m ↔
    ∃ id place, Mentions w id place ∧ m = ⟨String.ofList id, locatorOf place⟩ := by
  constructor
  · intro h
    unfold mentionOf? at h
    split at h
    · rename_i r
      have hname : ∀ c ∈ r.takeWhile isIdChar, isIdChar c = true := fun c hc =>
        List.mem_takeWhile_imp hc
      have hr := List.takeWhile_append_dropWhile (p := isIdChar) (l := r)
      dsimp only at h
      split_ifs at h with hid
      split at h
      · rename_i htail
        cases h
        exact ⟨_, [], ⟨[], by rw [← htail, hr], hid, hname, Or.inl ⟨rfl, rfl⟩⟩, rfl⟩
      · rename_i place htail
        split_ifs at h with hplace
        cases h
        exact ⟨_, place, ⟨',' :: place, by rw [← htail, hr], hid, hname, Or.inr ⟨rfl, hplace⟩⟩, rfl⟩
      · cases h
    · cases h
  · rintro ⟨id, place, ⟨tail, rfl, hid, hname, htail⟩, rfl⟩
    have hhead : ∀ c ∈ tail.head?, isIdChar c = false := by
      have hnothing : ∀ c ∈ ([] : List Char).head?, c = ';' := by simp
      simpa using htail.not_isIdChar hnothing
    obtain ⟨htake, hdrop⟩ := Text.takeWhile_append_of_head hname hhead
    simp only [mentionOf?, htake, hdrop, if_neg hid]
    obtain ⟨rfl, rfl⟩ | ⟨rfl, hplace⟩ := htail
    · rfl
    · simp only [if_neg hplace]

theorem isSome_mentionOf?_iff {w : List Char} :
    (mentionOf? w).isSome = true ↔ ∃ id place, Mentions w id place := by
  simp only [Option.isSome_iff_exists, mentionOf?_eq_some_iff]
  constructor
  · rintro ⟨m, id, place, h, -⟩
    exact ⟨id, place, h⟩
  · rintro ⟨id, place, h⟩
    exact ⟨_, id, place, h, rfl⟩

theorem Mentions.unbroken_iff {w id place : List Char} (h : Mentions w id place) :
    Unbroken w ↔ Unbroken place := by
  obtain ⟨tail, rfl, -, hname, ⟨rfl, rfl⟩ | ⟨rfl, -⟩⟩ := h <;>
    simp [unbroken_cons, unbroken_append, unbroken_of_name hname, unbroken_nil]

theorem mem_mentionParts {w : List Char} :
    w ∈ languageSeq mentionParts ↔ ∃ id place, Mentions w id place ∧ Unbroken place := by
  unfold mentionParts
  simp only [mem_cons_languageSeq, mem_nil_languageSeq, mem_character, mem_nameCharacters,
    mem_possibly_locator]
  constructor
  · rintro ⟨_, _, rfl, rfl, id, _, rfl, ⟨hid, hname⟩, tail, _, rfl, ⟨place, htail, hplace⟩, rfl⟩
    exact ⟨id, place, ⟨tail, by simp, hid, hname, htail⟩, hplace⟩
  · rintro ⟨id, place, ⟨tail, rfl, hid, hname, htail⟩, hplace⟩
    exact ⟨['@'], _, rfl, rfl, id, tail, rfl, ⟨hid, hname⟩, tail, [], by simp, ⟨place, htail, hplace⟩,
      rfl⟩

/-! ### Groups -/

/-- A piece of a group: a mention behind blanks. -/
def IsPiece (piece : List Char) : Prop :=
  (mentionOf? (piece.dropWhile Text.isBlank)).isSome = true ∧ Unbroken piece

theorem Mentions.dropWhile_append {w id place b : List Char} (h : Mentions w id place)
    (hb : ∀ c ∈ b, Text.isBlank c = true) : (b ++ w).dropWhile Text.isBlank = w := by
  obtain ⟨tail, rfl, -⟩ := h
  refine (Text.takeWhile_append_of_head hb ?_).2
  rintro c ⟨⟩
  exact isBlank_atSign

theorem isSome_mentionOf?_unbroken {w : List Char} :
    (mentionOf? w).isSome = true ∧ Unbroken w ↔ w ∈ languageSeq mentionParts := by
  rw [isSome_mentionOf?_iff, mem_mentionParts]
  constructor
  · rintro ⟨⟨id, place, h⟩, hw⟩
    exact ⟨id, place, h, h.unbroken_iff.1 hw⟩
  · rintro ⟨id, place, h, hplace⟩
    exact ⟨⟨id, place, h⟩, h.unbroken_iff.2 hplace⟩

theorem mem_nextMention {w : List Char} :
    w ∈ nextMention.language ↔ ∃ piece, w = ';' :: piece ∧ IsPiece piece := by
  show w ∈ languageSeq (character ';' :: blanks :: mentionParts) ↔ _
  rw [mem_cons_languageSeq]
  simp only [mem_character, mem_cons_languageSeq (p := blanks), mem_blanks, mem_mentionParts]
  constructor
  · rintro ⟨_, _, rfl, rfl, b, w, rfl, hb, id, place, h, hplace⟩
    refine ⟨b ++ w, rfl, ?_, unbroken_append.2 ⟨unbroken_of_blank hb, h.unbroken_iff.2 hplace⟩⟩
    rw [h.dropWhile_append hb]
    exact isSome_mentionOf?_iff.2 ⟨id, place, h⟩
  · rintro ⟨piece, rfl, hsome, hpiece⟩
    obtain ⟨id, place, h⟩ := isSome_mentionOf?_iff.1 hsome
    have hsplit := List.takeWhile_append_dropWhile (p := Text.isBlank) (l := piece)
    rw [← hsplit, unbroken_append] at hpiece
    exact ⟨[';'], piece, rfl, rfl, _, _, hsplit.symm, fun c hc => List.mem_takeWhile_imp hc, id, place,
      h, h.unbroken_iff.1 hpiece.2⟩

theorem isSome_mapM_iff {α β : Type} {f : α → Option β} : ∀ {xs : List α},
    (xs.mapM f).isSome = true ↔ ∀ x ∈ xs, (f x).isSome = true
  | [] => by simp
  | x :: xs => by
    rw [List.mapM_cons, List.forall_mem_cons, ← isSome_mapM_iff]
    cases f x with
    | none => simp
    | some y =>
      cases xs.mapM f with
      | none => simp
      | some ys => simp

theorem isSome_mentionsIn?_iff {w piece : List Char} {pieces : List (List Char)}
    (h : w.splitOn ';' = piece :: pieces) : (mentionsIn? w).isSome = true ↔
      (mentionOf? piece).isSome = true ∧
        ∀ p ∈ pieces, (mentionOf? (p.dropWhile Text.isBlank)).isSome = true := by
  rw [mentionsIn?, h, ← isSome_mapM_iff]
  dsimp only
  cases mentionOf? piece with
  | none => simp
  | some m =>
    cases pieces.mapM fun p => mentionOf? (p.dropWhile Text.isBlank) with
    | none => simp
    | some ms => simp

theorem exists_pieces {ws : List (List Char)} (h : ∀ v ∈ ws, v ∈ nextMention.language) :
    ∃ pieces : List (List Char), ws = pieces.map (fun p => ';' :: p) ∧ ∀ p ∈ pieces, IsPiece p := by
  induction ws with
  | nil => exact ⟨[], rfl, by simp⟩
  | cons w ws ih =>
    obtain ⟨hw, hws⟩ := List.forall_mem_cons.1 h
    obtain ⟨piece, rfl, hpiece⟩ := mem_nextMention.1 hw
    obtain ⟨pieces, rfl, hpieces⟩ := ih hws
    exact ⟨piece :: pieces, rfl, List.forall_mem_cons.2 ⟨hpiece, hpieces⟩⟩

/-- **What the brackets may enclose**: mentions between semicolons. -/
theorem mem_mentionsPattern {w : List Char} :
    w ∈ mentionsPattern.language ↔ ']' ∉ w ∧ (mentionsIn? w).isSome = true := by
  have hlanguage : mentionsPattern.language =
      languageSeq mentionParts * (more nextMention.language 0 none 0 * 1) :=
    Pattern.languageSeq_append mentionParts _
  rw [hlanguage, mul_one, Language.mem_mul]
  constructor
  · rintro ⟨piece, hpiece, v, hv, rfl⟩
    obtain ⟨ws, rfl, hws⟩ := Pattern.mem_more_any.1 hv
    obtain ⟨pieces, rfl, hpieces⟩ := exists_pieces hws
    obtain ⟨hsome, hunbroken⟩ := isSome_mentionOf?_unbroken.2 hpiece
    have hall : ∀ p ∈ piece :: pieces, Unbroken p :=
      List.forall_mem_cons.2 ⟨hunbroken, fun p hp => (hpieces p hp).2⟩
    rw [← Text.intercalate_cons]
    have hsplit : ([';'].intercalate (piece :: pieces)).splitOn ';' = piece :: pieces :=
      List.splitOn_intercalate ';' (fun p hp => (unbroken_iff.1 (hall p hp)).1) (by simp)
    refine ⟨?_, (isSome_mentionsIn?_iff hsplit).2 ⟨hsome, fun p hp => (hpieces p hp).1⟩⟩
    rw [Text.intercalate_cons, List.mem_append, List.mem_flatten, not_or]
    refine ⟨(unbroken_iff.1 hunbroken).2, ?_⟩
    rintro ⟨q, hq, hbracket⟩
    obtain ⟨p, hp, rfl⟩ := List.mem_map.1 hq
    obtain hbracket | hbracket := List.mem_cons.1 hbracket
    · cases hbracket
    · exact (unbroken_iff.1 (hpieces p hp).2).2 hbracket
  · rintro ⟨hbracket, hsome⟩
    obtain ⟨piece, pieces, hsplit⟩ := List.exists_cons_of_ne_nil (List.splitOn_ne_nil ';' w)
    have hall : ∀ p ∈ piece :: pieces, Unbroken p := fun p hp =>
      unbroken_iff.2 (notMem_piece hbracket (hsplit ▸ hp))
    obtain ⟨hpiece, hpieces⟩ := (isSome_mentionsIn?_iff hsplit).1 hsome
    refine ⟨piece, isSome_mentionOf?_unbroken.1 ⟨hpiece, hall piece List.mem_cons_self⟩,
      (pieces.map fun p => ';' :: p).flatten, Pattern.mem_more_any.2 ⟨_, rfl, ?_⟩, ?_⟩
    · intro v hv
      obtain ⟨p, hp, rfl⟩ := List.mem_map.1 hv
      exact mem_nextMention.2 ⟨p, rfl, hpieces p hp, hall p (List.mem_cons_of_mem piece hp)⟩
    · rw [← Text.intercalate_cons, ← hsplit, List.intercalate_splitOn]

end SlidePress.Citation
