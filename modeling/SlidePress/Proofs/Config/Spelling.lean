import SlidePress.Config
import SlidePress.Proofs.Text.Letter
import SlidePress.Proofs.Value.Key

/-! # Keys with inner capitals

A name of small letters with underscores between its words may be written with a capital letter in
place of each underscore and the letter behind it; respelling a key gives the name back whichever way
it was written (`snakeKey_camelKey`). Data is written in a manner: every key of every mapping in it is
spelled one way or the other, and some keys are left out with what is under them. Respelling such a
document gives the data without what was left out (`Manner.snakeKeys_written`). -/

namespace SlidePress.Config

open Text

/-! ### Names -/

/-- Small letters with single underscores in front of some of them. -/
def isTail : List Char → Bool
  | [] => true
  | '_' :: c :: cs => c.isLower && isTail cs
  | c :: cs => c.isLower && isTail cs

/-- Words of small letters with single underscores between them. -/
def isName (s : String) : Bool :=
  match s.toList with
  | c :: cs => c.isLower && isTail cs
  | [] => false

/-- A capital letter in place of every underscore and the letter behind it. -/
def capitals : List Char → List Char
  | [] => []
  | '_' :: c :: cs => c.toUpper :: capitals cs
  | c :: cs => c :: capitals cs

/-- A name with inner capitals in place of its underscores. -/
def camelKey (s : String) : String := String.ofList (capitals s.toList)

/-- A character with an underscore in front if it is a capital letter. -/
def split (c : Char) : List Char := if 'A' ≤ c ∧ c ≤ 'Z' then ['_', c] else [c]

theorem split_of_isUpper {c : Char} (h : c.isUpper = true) : split c = ['_', c] :=
  if_pos (isUpper_iff.1 h)

theorem split_of_isLower {c : Char} (h : c.isLower = true) : split c = [c] :=
  if_neg (mt isUpper_iff.2 (Char.not_isUpper_of_isLower h))

theorem lowerFrom_split (before : List Char) {cs : List Char} (h : ∀ c ∈ cs, c.toNat < 128) :
    lowerFrom before (cs.flatMap split) = (cs.flatMap split).map Char.toLower := by
  refine lowerFrom_of_ascii before fun c hc => ?_
  obtain ⟨d, hd, hc⟩ := List.mem_flatMap.1 hc
  unfold split at hc
  split_ifs at hc <;> simp only [List.mem_cons, List.not_mem_nil, or_false] at hc
  · rcases hc with rfl | rfl
    · decide
    · exact h c hd
  · exact hc ▸ h d hd

/-- The respelled form of a small letter and what follows it. -/
theorem respelled_cons {c : Char} {cs ds : List Char} (hc : c.isLower = true)
    (hcs : ∀ d ∈ cs, d.toNat < 128) (h : (cs.flatMap split).map Char.toLower = ds) :
    lowerChars (splitCapitals (c :: cs)) = c :: ds := by
  have hlt := toNat_lt_of_isAlpha (isAlpha_of_isLower hc)
  show lowerFrom [] (c :: cs.flatMap split) = _
  rw [lowerFrom, if_neg (by omega), lowerChar, if_pos hlt, toLower_of_isLower hc,
    lowerFrom_split _ hcs, h]
  rfl

/-- What stands in a name behind its first letter is respelled as it is. -/
theorem map_toLower_split {cs : List Char} (h : isTail cs = true) :
    (∀ c ∈ cs, c.toNat < 128) ∧ (cs.flatMap split).map Char.toLower = cs := by
  have hsmall {c : Char} (hc : c.isLower = true) : c.toNat < 128 ∧ split c = [c] ∧ c.toLower = c :=
    ⟨toNat_lt_of_isAlpha (isAlpha_of_isLower hc), split_of_isLower hc, toLower_of_isLower hc⟩
  fun_induction isTail cs with
  | case1 => exact ⟨List.forall_mem_nil _, rfl⟩
  | case2 c cs ih =>
    obtain ⟨hc, hcs⟩ := Bool.and_eq_true_iff.1 h
    obtain ⟨hlt, hsplit, hlower⟩ := hsmall hc
    obtain ⟨hlts, hsplits⟩ := ih hcs
    refine ⟨List.forall_mem_cons.2 ⟨by decide, List.forall_mem_cons.2 ⟨hlt, hlts⟩⟩, ?_⟩
    rw [List.flatMap_cons, List.flatMap_cons, hsplit, List.map_append, List.map_append, hsplits,
      List.map_singleton, hlower]
    rfl
  | case3 c cs _ ih =>
    obtain ⟨hc, hcs⟩ := Bool.and_eq_true_iff.1 h
    obtain ⟨hlt, hsplit, hlower⟩ := hsmall hc
    obtain ⟨hlts, hsplits⟩ := ih hcs
    refine ⟨List.forall_mem_cons.2 ⟨hlt, hlts⟩, ?_⟩
    rw [List.flatMap_cons, hsplit, List.map_append, hsplits, List.map_singleton, hlower]
    rfl

/-- With inner capitals it gets its underscores back. -/
theorem map_toLower_split_capitals {cs : List Char} (h : isTail cs = true) :
    (∀ c ∈ capitals cs, c.toNat < 128) ∧
      ((capitals cs).flatMap split).map Char.toLower = cs := by
  fun_induction capitals cs with
  | case1 => exact ⟨List.forall_mem_nil _, rfl⟩
  | case2 c cs ih =>
    rw [isTail, Bool.and_eq_true] at h
    have hupper := isUpper_toUpper h.1
    have halpha : c.toUpper.isAlpha = true := by rw [Char.isAlpha, hupper, Bool.true_or]
    obtain ⟨hlts, hsplits⟩ := ih h.2
    refine ⟨List.forall_mem_cons.2 ⟨toNat_lt_of_isAlpha halpha, hlts⟩, ?_⟩
    rw [List.flatMap_cons, split_of_isUpper hupper, List.map_append, hsplits, List.map_cons,
      List.map_singleton, toLower_toUpper h.1]
    rfl
  | case3 c cs hne ih =>
    rw [isTail, Bool.and_eq_true] at h
    · obtain ⟨hlts, hsplits⟩ := ih h.2
      refine ⟨List.forall_mem_cons.2 ⟨toNat_lt_of_isAlpha (isAlpha_of_isLower h.1), hlts⟩, ?_⟩
      rw [List.flatMap_cons, split_of_isLower h.1, List.map_append, hsplits, List.map_singleton,
        toLower_of_isLower h.1]
      rfl
    · exact hne

/-- **Both spellings of a name** are read as the name. -/
theorem snakeKey_spelled {s : String} (h : isName s = true) (capital : Bool) :
    snakeKey (if capital then camelKey s else s) = s := by
  unfold isName at h
  split at h
  · rename_i c cs hs
    obtain ⟨hc, hcs⟩ := Bool.and_eq_true_iff.1 h
    have hne : c ≠ '_' := ne_of_apply_ne Char.isLower (by rw [hc]; decide)
    have hcamel : (camelKey s).toList = c :: capitals cs := by
      rw [camelKey, String.toList_ofList, hs, capitals]
      exact fun d ds hd => absurd hd hne
    have hlower : lower (String.ofList (splitCapitals (if capital then camelKey s else s).toList)) =
        String.ofList s.toList := by
      rw [lower, String.toList_ofList, hs]
      cases capital with
      | true =>
        obtain ⟨hlts, hsplits⟩ := map_toLower_split_capitals hcs
        rw [if_pos rfl, hcamel, respelled_cons hc hlts hsplits]
      | false =>
        obtain ⟨hlts, hsplits⟩ := map_toLower_split hcs
        rw [if_neg (by decide), hs, respelled_cons hc hlts hsplits]
    rw [snakeKey, hlower, String.ofList_toList]
  · cases h

example : camelKey "et_al_ja" = "etAlJa" := by decide

/-! ### Documents -/

/-- A manner of writing data: which keys have inner capitals, and which are left out. A key is given
by the keys on the way to it and itself. -/
structure Manner where
  capital : List String → Bool
  omits : List String → Bool

namespace Manner

/-- The manner in which what stands under a key is written. -/
def under (m : Manner) (key : String) : Manner :=
  ⟨fun way => m.capital (key :: way), fun way => m.omits (key :: way)⟩

/-- The manner that leaves out the same and has no inner capitals. -/
def plain (m : Manner) : Manner := ⟨fun _ => false, m.omits⟩

/-- A key as it is spelled. -/
def spelled (m : Manner) (key : String) : String := if m.capital [key] then camelKey key else key

mutual

/-- Data as it is written, the keys of all mappings in it spelled or left out. -/
def written : Manner → Value → Value
  | m, .map es => .map (writtenEntries m es)
  | _, v => v
termination_by structural _ v => v

/-- Entries as they are written. -/
def writtenEntries : Manner → List (Value × Value) → List (Value × Value)
  | _, [] => []
  | m, (k, v) :: es =>
    match k with
    | .str key =>
      if m.omits [key] then writtenEntries m es
      else (.str (m.spelled key), written (m.under key) v) :: writtenEntries m es
    | k => (k, v) :: writtenEntries m es
termination_by structural _ es => es

end

/-- Named values as they are written. -/
def names (m : Manner) (ps : List (String × Value)) : List (String × Value) :=
  (ps.filter fun p => !m.omits [p.1]).map fun p => (m.spelled p.1, (m.under p.1).written p.2)

theorem written_ofNames (m : Manner) (ps : List (String × Value)) :
    m.written (.map (Entries.ofNames ps)) = .map (Entries.ofNames (m.names ps)) := by
  have hentries : m.writtenEntries (Entries.ofNames ps) = Entries.ofNames (m.names ps) := by
    induction ps with
    | nil => rfl
    | cons p ps ih =>
      unfold names Entries.ofNames at ih ⊢
      rw [List.map_cons, writtenEntries, ih]
      by_cases h : m.omits [p.1] = true <;> simp [h]
  rw [written, hentries]

theorem written_of_plain {v : Value} (h : ∀ es, v ≠ .map es) (m : Manner) : m.written v = v := by
  cases v with
  | map es => exact absurd rfl (h es)
  | _ => rfl

/-- What is found under a name that is written plainly. -/
theorem lookup_names (m : Manner) (ps : List (String × Value)) (name : String) :
    (m.plain.names ps).lookup name =
      if m.omits [name] then none else (ps.lookup name).map (m.under name).plain.written := by
  induction ps with
  | nil => simp [names]
  | cons p ps ih =>
    unfold names at ih ⊢
    have hspelled : m.plain.spelled p.1 = p.1 := rfl
    by_cases hkey : name = p.1
    · subst hkey
      by_cases homits : m.omits [p.1] = true
      · rw [List.filter_cons_of_neg (by simp [plain, homits]), ih, if_pos homits, if_pos homits]
      · rw [List.filter_cons_of_pos (by simp [plain, homits]), List.map_cons, hspelled,
          List.lookup_cons_self, List.lookup_cons_self, if_neg homits]
        rfl
    · have hne : (name == p.1) = false := beq_false_of_ne hkey
      rw [List.lookup_cons, hne, ← ih]
      by_cases homits : m.omits [p.1] = true
      · rw [List.filter_cons_of_neg (by simp [plain, homits])]
      · rw [List.filter_cons_of_pos (by simp [plain, homits]), List.map_cons, hspelled,
          List.lookup_cons, hne]

end Manner

/-- Data in which the keys of every mapping are names, and different ones. -/
inductive Named : Value → Prop
  | plain {v : Value} (h : ∀ es, v ≠ .map es) : Named v
  | names {ps : List (String × Value)} (hnodup : (ps.map Prod.fst).Nodup)
    (hnames : ∀ p ∈ ps, isName p.1 = true) (h : ∀ p ∈ ps, Named p.2) :
    Named (.map (Entries.ofNames ps))

theorem snakeKeys_ofNames (ps : List (String × Value)) :
    snakeKeys (.map (Entries.ofNames ps)) =
      .map (Entries.ofPairs (Entries.ofNames (ps.map fun p => (snakeKey p.1, snakeKeys p.2)))) := by
  have hentries : snakeEntries (Entries.ofNames ps) =
      Entries.ofNames (ps.map fun p => (snakeKey p.1, snakeKeys p.2)) := by
    induction ps with
    | nil => rfl
    | cons p ps ih =>
      unfold Entries.ofNames at ih ⊢
      rw [List.map_cons, snakeEntries, ih]
      rfl
  rw [snakeKeys, hentries]

/-- **A document is read as the data** that was written, without what was left out, however its keys
are spelled. -/
theorem Manner.snakeKeys_written {v : Value} (h : Named v) (m : Manner) :
    snakeKeys (m.written v) = m.plain.written v := by
  induction h generalizing m with
  | @plain v h =>
    rw [written_of_plain h, written_of_plain h]
    cases v with
    | map es => exact absurd rfl (h es)
    | _ => rfl
  | @names ps hnodup hnames _ ih =>
    -- a key that is left out is left out on both sides, so the entries correspond one by one
    have hread : ((m.names ps).map fun p => (snakeKey p.1, snakeKeys p.2)) = m.plain.names ps := by
      rw [Manner.names, Manner.names, List.map_map]
      refine List.map_congr_left fun p hp => ?_
      have hp := List.mem_of_mem_filter hp
      rw [Function.comp_apply, ih p hp]
      exact Prod.ext (snakeKey_spelled (hnames p hp) _) rfl
    -- respelling merges entries of one key; the names differ, so none are merged
    have hkeys : ((m.plain.names ps).map Prod.fst).Nodup := by
      rw [Manner.names, List.map_map]
      exact hnodup.sublist (List.filter_sublist.map Prod.fst)
    rw [written_ofNames, written_ofNames, snakeKeys_ofNames, hread, Entries.ofPairs_ofNames hkeys]

end SlidePress.Config
