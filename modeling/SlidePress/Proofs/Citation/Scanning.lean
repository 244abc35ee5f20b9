import Mathlib.Data.List.TakeWhile
import Mathlib.Tactic.SplitIfs
import SlidePress.Citation.Collect
import SlidePress.Proofs.Text.Split

/-! # The grammar of citations

What counts as a group of citations, said without an automaton: the text between an opening bracket
and the next closing one is cut at its semicolons, and every piece has to be a mention by itself
(`mentionOf?`, `mentionsIn?`). The citations of a text are those of its groups from left to right; where
no group begins, the search goes on with the next character (`scan`).

* `readFrom_piece`: inside a piece the automaton takes one step for each character.
* `bind_mention?_after`: where the steps over a piece lead, a mention is read exactly if the piece is one.
* `readGroup_append`: up to the next closing bracket the automaton reads what the pieces are.
* `inText_eq_scan`: the citations of a text are those of the scan. -/

namespace SlidePress.Citation

/-! ### Pieces and groups -/

/-- **A mention by itself**: an at sign and a name; then nothing, or a comma and something. -/
def mentionOf? : List Char → Option Mention
  | '@' :: r =>
    let id := r.takeWhile isIdChar
    if id = [] then none
    else
      match r.dropWhile isIdChar with
      | [] => some ⟨String.ofList id, none⟩
      | ',' :: place => if place = [] then none else some ⟨String.ofList id, locatorOf place⟩
      | _ => none
  | _ => none

/-- The mentions between two brackets: one in every piece between semicolons. Blanks may stand in
front of every piece but the first. -/
def mentionsIn? (inner : List Char) : Option (List Mention) :=
  match inner.splitOn ';' with
  | [] => none
  | piece :: pieces => do
    let m ← mentionOf? piece
    let ms ← pieces.mapM fun p => mentionOf? (p.dropWhile Text.isBlank)
    return m :: ms

/-- The group at the beginning of a text: what is between the opening bracket and the next closing one,
and its mentions. -/
def group? : List Char → Option (List Char × List Mention)
  | [] => none
  | c :: r =>
    let inner := r.takeWhile (· != ']')
    if c = '[' ∧ ']' ∈ r then (mentionsIn? inner).map (inner, ·) else none

/-- **The citations of a text**, which begins at `start`: each one stands where its group does. -/
def scan (start : Nat) : List Char → List Citation
  | [] => []
  | c :: r =>
    match group? (c :: r) with
    | some (inner, ms) =>
      let stop := start + inner.length + 2
      ms.map (fun m => ⟨m.id, start, stop, m.locator⟩) ++ scan stop (r.drop (inner.length + 1))
    | none => scan (start + 1) r
termination_by cs => cs.length
decreasing_by
  · simp only [List.length_drop, List.length_cons]
    omega
  · simp

/-! ### Steps over a piece -/

/-- Where the reader of a group is behind a piece. -/
def Place.after? (p : Place) (piece : List Char) : Option Place :=
  piece.foldlM (fun p c => p.step? c) p

theorem readFrom_piece {piece : List Char} (hsemicolon : ';' ∉ piece) (hbracket : ']' ∉ piece)
    (p : Place) (got : List Mention) (r : List Char) :
    readFrom p got (piece ++ r) = (p.after? piece).bind fun q => readFrom q got r := by
  induction piece generalizing p with
  | nil => rfl
  | cons c piece ih =>
    simp only [List.mem_cons, not_or] at hsemicolon hbracket
    rw [List.cons_append, readFrom, if_neg (Ne.symm hbracket.1), if_neg (Ne.symm hsemicolon.1)]
    unfold Place.after?
    rw [List.foldlM_cons]
    cases p.step? c with
    | none => rfl
    | some q => exact ih hsemicolon.2 hbracket.2 q

theorem after?_inLocator (id place piece : List Char) :
    (Place.inLocator id place).after? piece = some (.inLocator id (piece.reverse ++ place)) := by
  induction piece generalizing place with
  | nil => rfl
  | cons c piece ih =>
    have hstep : (Place.inLocator id place).after? (c :: piece) =
        (Place.inLocator id (c :: place)).after? piece := rfl
    rw [hstep, ih, List.reverse_cons, List.append_assoc]
    rfl

theorem after?_inId {name : List Char} (h : ∀ c ∈ name, isIdChar c = true) (id piece : List Char) :
    (Place.inId id).after? (name ++ piece) = (Place.inId (name.reverse ++ id)).after? piece := by
  induction name generalizing id with
  | nil => rfl
  | cons c name ih =>
    have hc := h c List.mem_cons_self
    have hstep : (Place.inId id).after? (c :: name ++ piece) =
        (Place.inId (c :: id)).after? (name ++ piece) := by
      show ((Place.inId id).step? c).bind _ = _
      rw [Place.step?, if_pos hc]
      rfl
    rw [hstep, ih (fun d hd => h d (List.mem_cons_of_mem c hd)), List.reverse_cons, List.append_assoc]
    rfl

/-- A mention is read where the steps over the text behind an at sign lead, if it is one. -/
theorem bind_mention?_after_inId (r : List Char) :
    ((Place.inId []).after? r).bind Place.mention? = mentionOf? ('@' :: r) := by
  have hname : ∀ c ∈ r.takeWhile isIdChar, isIdChar c = true := fun c hc =>
    List.mem_takeWhile_imp hc
  have hr : (Place.inId []).after? r =
      (Place.inId (r.takeWhile isIdChar).reverse).after? (r.dropWhile isIdChar) := by
    have hsplit := after?_inId hname [] (r.dropWhile isIdChar)
    rwa [List.takeWhile_append_dropWhile, List.append_nil] at hsplit
  rw [hr, mentionOf?]
  have hhead := List.head?_dropWhile_not isIdChar r
  generalize r.takeWhile isIdChar = id
  cases hrest : r.dropWhile isIdChar with
  | nil =>
    show (Place.inId id.reverse).mention? = _
    simp [Place.mention?]
  | cons c place =>
    have hc : isIdChar c = false := by simpa [hrest] using hhead
    have hstep : (Place.inId id.reverse).after? (c :: place) =
        if c = ',' ∧ id ≠ [] then some (.inLocator id.reverse place.reverse) else none := by
      show ((Place.inId id.reverse).step? c).bind _ = _
      rw [Place.step?, if_neg (by simp [hc])]
      simp only [ne_eq, List.reverse_eq_nil_iff]
      split_ifs with h
      · rw [Option.bind_some]
        exact (after?_inLocator id.reverse [] place).trans (by rw [List.append_nil])
      · rfl
    rw [hstep]
    by_cases hid : id = []
    · simp [hid]
    · by_cases hcomma : c = ','
      · subst hcomma
        by_cases hplace : place = []
        · simp [hid, hplace, Place.mention?]
        · simp [hid, hplace, Place.mention?]
      · simp [hid, hcomma]

theorem isBlank_atSign : Text.isBlank '@' = false := by decide

/-- **The steps over a piece** lead to a mention exactly if the piece is one, without the blanks in
front of it where they may stand there. -/
theorem bind_mention?_after (blanks : Bool) (piece : List Char) :
    ((Place.before blanks).after? piece).bind Place.mention? =
      mentionOf? (if blanks then piece.dropWhile Text.isBlank else piece) := by
  induction piece with
  | nil => cases blanks <;> rfl
  | cons c piece ih =>
    by_cases hat : c = '@'
    · subst hat
      have hkept : (if blanks then ('@' :: piece).dropWhile Text.isBlank else '@' :: piece) =
          '@' :: piece := by
        rw [List.dropWhile_cons_of_neg (by simp [isBlank_atSign]), ite_self]
      rw [hkept]
      exact bind_mention?_after_inId piece
    · have hnot : mentionOf? (c :: piece) = none := by
        unfold mentionOf?
        split
        · rename_i heq
          exact absurd (List.cons.inj heq).1 hat
        · rfl
      by_cases hblank : blanks = true ∧ Text.isBlank c = true
      · obtain ⟨rfl, hc⟩ := hblank
        have hstep : (Place.before true).after? (c :: piece) = (Place.before true).after? piece := by
          show ((Place.before true).step? c).bind _ = _
          simp [Place.step?, hat, hc, Place.after?]
        rw [hstep, ih, if_pos rfl, if_pos rfl, List.dropWhile_cons_of_pos hc]
      · have hstep : (Place.before blanks).after? (c :: piece) = none := by
          show ((Place.before blanks).step? c).bind _ = _
          rw [Place.step?, if_neg hat, if_neg (by simpa using hblank)]
          rfl
        have hkept : (if blanks then (c :: piece).dropWhile Text.isBlank else c :: piece) =
            c :: piece := by
          split_ifs with hb
          · exact List.dropWhile_cons_of_neg fun hc => hblank ⟨hb, hc⟩
          · rfl
        rw [hstep, hkept, hnot]
        rfl

/-! ### Groups -/

/-- One piece behind the other, the automaton reads the mentions of a group. -/
theorem readFrom_pieces (rest : List Char) :
    ∀ (piece : List Char) (pieces : List (List Char)) (blanks : Bool) (got : List Mention),
      (∀ p ∈ piece :: pieces, ';' ∉ p ∧ ']' ∉ p) →
      readFrom (.before blanks) got ([';'].intercalate (piece :: pieces) ++ ']' :: rest) = (do
        let m ← mentionOf? (if blanks then piece.dropWhile Text.isBlank else piece)
        let ms ← pieces.mapM fun p => mentionOf? (p.dropWhile Text.isBlank)
        return (got.reverse ++ m :: ms, rest))
  | piece, [], blanks, got, h => by
    obtain ⟨hsemicolon, hbracket⟩ := h piece List.mem_cons_self
    rw [List.intercalate_singleton, readFrom_piece hsemicolon hbracket, ← bind_mention?_after]
    cases (Place.before blanks).after? piece with
    | none => rfl
    | some p =>
      rw [Option.bind_some, Option.bind_some, readFrom, if_pos rfl]
      cases p.mention? with
      | none => rfl
      | some m => simp
  | piece, next :: pieces, blanks, got, h => by
    obtain ⟨hsemicolon, hbracket⟩ := h piece List.mem_cons_self
    have hrest : ∀ p ∈ next :: pieces, ';' ∉ p ∧ ']' ∉ p := fun p hp =>
      h p (List.mem_cons_of_mem piece hp)
    rw [List.intercalate_cons_cons, List.append_assoc, List.append_assoc,
      readFrom_piece hsemicolon hbracket, ← bind_mention?_after]
    cases (Place.before blanks).after? piece with
    | none => rfl
    | some p =>
      rw [Option.bind_some, Option.bind_some, List.singleton_append, readFrom, if_neg (by decide),
        if_pos rfl]
      cases p.mention? with
      | none => rfl
      | some m =>
        dsimp only
        rw [readFrom_pieces rest next pieces true (m :: got) hrest, if_pos rfl, List.mapM_cons]
        cases mentionOf? (next.dropWhile Text.isBlank) with
        | none => rfl
        | some m' =>
          cases pieces.mapM fun p => mentionOf? (p.dropWhile Text.isBlank) with
          | none => rfl
          | some ms => simp

theorem notMem_piece {inner piece : List Char} (h : ']' ∉ inner) (hp : piece ∈ inner.splitOn ';') :
    ';' ∉ piece ∧ ']' ∉ piece :=
  ⟨Text.notMem_of_mem_splitOn hp, fun hbracket => h (Text.subset_of_mem_splitOn hp hbracket)⟩

/-- **Up to the next closing bracket** the automaton reads what the pieces are. -/
theorem readGroup_append {inner : List Char} (h : ']' ∉ inner) (rest : List Char) :
    readGroup (inner ++ ']' :: rest) = (mentionsIn? inner).map (·, rest) := by
  obtain ⟨piece, pieces, hsplit⟩ := List.exists_cons_of_ne_nil (List.splitOn_ne_nil ';' inner)
  have hinner : [';'].intercalate (piece :: pieces) = inner := hsplit ▸ List.intercalate_splitOn ';'
  have hpieces : ∀ p ∈ piece :: pieces, ';' ∉ p ∧ ']' ∉ p := fun p hp =>
    notMem_piece h (hsplit ▸ hp)
  rw [readGroup, ← hinner, readFrom_pieces rest piece pieces false [] hpieces, mentionsIn?, hinner,
    hsplit]
  simp only [Bool.false_eq_true, if_false, List.reverse_nil, List.nil_append]
  cases mentionOf? piece with
  | none => rfl
  | some m =>
    cases pieces.mapM fun p => mentionOf? (p.dropWhile Text.isBlank) with
    | none => rfl
    | some ms => rfl

/-- Without a closing bracket there is no group. -/
theorem readFrom_of_not_mem {cs : List Char} (h : ']' ∉ cs) (p : Place) (got : List Mention) :
    readFrom p got cs = none := by
  induction cs generalizing p got with
  | nil => rfl
  | cons c r ih =>
    simp only [List.mem_cons, not_or] at h
    rw [readFrom, if_neg (Ne.symm h.1)]
    split_ifs
    · cases p.mention? with
      | none => rfl
      | some m => exact ih h.2 _ _
    · cases p.step? c with
      | none => rfl
      | some q => exact ih h.2 _ _

/-- What is between the brackets ends at the first closing bracket. -/
theorem group?_append {inner : List Char} (h : ']' ∉ inner) (rest : List Char) :
    group? ('[' :: (inner ++ ']' :: rest)) = (mentionsIn? inner).map (inner, ·) := by
  have hkeeps : ∀ c ∈ inner, (c != ']') = true := fun c hc =>
    bne_iff_ne.2 fun hbracket => h (hbracket ▸ hc)
  have htake : (inner ++ ']' :: rest).takeWhile (· != ']') = inner := by
    rw [List.takeWhile_append_of_pos hkeeps, List.takeWhile_cons_of_neg (by decide), List.append_nil]
  rw [group?, if_pos ⟨rfl, List.mem_append_right inner List.mem_cons_self⟩, htake]

/-- A group is a text between an opening bracket and the next closing one that consists of mentions. -/
theorem exists_of_group? {c : Char} {r inner : List Char} {ms : List Mention}
    (h : group? (c :: r) = some (inner, ms)) :
    ∃ rest, c = '[' ∧ r = inner ++ ']' :: rest ∧ ']' ∉ inner ∧ mentionsIn? inner = some ms := by
  have hbrackets : c = '[' ∧ ']' ∈ r := by
    by_contra hnone
    rw [group?, if_neg hnone] at h
    cases h
  obtain ⟨rfl, hclosing⟩ := hbrackets
  obtain ⟨before, rest, rfl, hbefore⟩ := List.eq_append_cons_of_mem hclosing
  rw [group?_append hbefore] at h
  obtain ⟨_, hms, hpair⟩ := Option.map_eq_some_iff.1 h
  obtain ⟨rfl, rfl⟩ := Prod.mk.inj hpair
  exact ⟨rest, rfl, rfl, hbefore, hms⟩

theorem readGroup_eq_none {r : List Char} (h : group? ('[' :: r) = none) : readGroup r = none := by
  by_cases hclosing : ']' ∈ r
  · obtain ⟨inner, rest, rfl, hinner⟩ := List.eq_append_cons_of_mem hclosing
    rw [group?_append hinner, Option.map_eq_none_iff] at h
    rw [readGroup_append hinner, h, Option.map_none]
  · exact readFrom_of_not_mem hclosing _ _

/-! ### Texts -/

theorem segmentsFrom_skip (skip : Nat) (cs : List Char) :
    segmentsFrom skip cs = segmentsFrom 0 (cs.drop skip) := by
  induction cs generalizing skip with
  | nil => rw [List.drop_nil, segmentsFrom, segmentsFrom]
  | cons c r ih =>
    cases skip with
    | zero => rfl
    | succ skip => rw [segmentsFrom, ih, List.drop_succ_cons]

/-- The parts of a text from some place on hold the citations that the scan finds there. -/
theorem ofSegments_segmentsFrom (start : Nat) (cs : List Char) :
    ofSegments start (segmentsFrom 0 cs) = scan start cs := by
  induction start, cs using scan.induct with
  | case1 start => rw [segmentsFrom, ofSegments, scan]
  | case2 start c r inner ms h stop ih =>
    obtain ⟨rest, hc, rfl, hinner, hms⟩ := exists_of_group? h
    have hread : readGroup (inner ++ ']' :: rest) = some (ms, rest) := by
      rw [readGroup_append hinner, hms]
      rfl
    have hlength : (inner ++ ']' :: rest).length - rest.length = inner.length + 1 := by
      simp only [List.length_append, List.length_cons]
      omega
    have hwritten : (c :: (inner ++ ']' :: rest).take (inner.length + 1)).length =
        inner.length + 2 := by
      simp
    rw [segmentsFrom, if_pos hc, hread, scan, h]
    dsimp only
    rw [hlength, ofSegments, hwritten, segmentsFrom_skip, ← Nat.add_assoc]
    exact congrArg _ ih
  | case3 start c r h ih =>
    have hread : (if c = '[' then readGroup r else none) = none := by
      split_ifs with hc
      · exact readGroup_eq_none (hc ▸ h)
      · rfl
    rw [segmentsFrom, hread, scan, h]
    exact ih

/-- **The citations of a text** are those of its groups, and a group stands wherever the text between
an opening bracket and the next closing one is cut into mentions by its semicolons. -/
theorem inText_eq_scan (s : String) : inText s = scan 0 s.toList :=
  ofSegments_segmentsFrom 0 s.toList

end SlidePress.Citation
