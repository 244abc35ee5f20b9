import SlidePress.Proofs.Citation.Pieces

/-! # Extracting by expressions

The first expression matches exactly where the grammar has a group, and keeps what is between the
brackets. The second one matches in that every mention as a whole, since the characters of a place are
repeated greedily up to a semicolon, and nothing else. So the citations that the two extract, match by
match, are those of the scan, which the automaton finds as well.

* `exists_run_groupPattern`, `run_groupPattern_eq_none`: the matches of the first expression.
* `mentionsOf_eq`: the matches of the second one in a group.
* `extract_eq_scan`: the citations of a text. -/

namespace SlidePress.Citation

open Pattern (inSet run Spot Regular Next)

/-! ### Matches of groups -/

theorem regular_character {c : Char} : Regular (character c) := .one

theorem regular_characters {least : Nat} {negated : Bool} {cs : List Pattern.Class} :
    Regular (.loop least none .greedy (.one negated false cs)) := by
  refine .loop .one (by simp) (by simp) ?_
  rintro ⟨c, hc, -⟩
  cases hc

theorem regular_mentionParts : ∀ p ∈ mentionParts, Regular p := by
  simp only [mentionParts, List.forall_mem_cons, List.not_mem_nil, false_imp_iff, implies_true,
    and_true]
  refine ⟨.one, regular_characters, .loop (.group (.seq ?_)) (by simp) (by simp) ?_⟩
  · simp only [List.forall_mem_cons, List.not_mem_nil, false_imp_iff, implies_true, and_true]
    exact ⟨.one, regular_characters, regular_characters⟩
  · rintro ⟨u, ⟨c, rfl, -⟩, v, -, h⟩
    cases h

theorem regular_mentionsPattern : Regular mentionsPattern := by
  refine .seq fun p hp => ?_
  rcases List.mem_append.1 hp with hp | hp
  · exact regular_mentionParts p hp
  · rw [List.mem_singleton.1 hp]
    refine .loop (.group (.seq ?_)) (by simp) (by simp) fun h => ?_
    · simp only [List.forall_mem_cons]
      exact ⟨.one, regular_characters, regular_mentionParts⟩
    · obtain ⟨piece, h, -⟩ := mem_nextMention.1 h
      cases h

theorem run_groupPattern (s : Spot) : run groupPattern s some =
    run (character '[') s fun s => run (.group (some 1) mentionsPattern) s fun s =>
      run (character ']') s some :=
  rfl

/-- A match of a group is the brackets and what is between them. -/
theorem exists_of_run_groupPattern {before r : List Char} {c : Char} {e : Spot}
    (h : run groupPattern ⟨before, c :: r, []⟩ some = some e) :
    ∃ inner rest, c = '[' ∧ r = inner ++ ']' :: rest ∧ inner ∈ mentionsPattern.language ∧
      e.index = before.length + inner.length + 2 ∧ kept e 1 = inner := by
  rw [run_groupPattern] at h
  obtain ⟨_, hw, s, hs, h⟩ := regular_character.finds _ _ e h
  obtain rfl := mem_character.1 hw
  obtain ⟨inner, hinner, t, ht, h⟩ := regular_mentionsPattern.finds_group h
  obtain ⟨_, hw, e', he, h⟩ := regular_character.finds _ _ e h
  obtain rfl := mem_character.1 hw
  obtain rfl : e' = e := Option.some.inj h
  obtain ⟨rfl, hr⟩ := List.cons.inj hs.1
  refine ⟨inner, e'.rest, rfl, ?_, hinner, ?_, ?_⟩
  · exact hr.trans (ht.1.trans (congrArg (inner ++ ·) he.1))
  · rw [he.index_eq]
    show 1 + t.index = _
    rw [ht.index_eq, hs.index_eq]
    show 1 + (inner.length + (1 + before.length)) = _
    omega
  · rw [kept, he.2.2]
    rfl

theorem isSome_run_groupPattern {before inner rest : List Char}
    (h : inner ∈ mentionsPattern.language) :
    (run groupPattern ⟨before, '[' :: (inner ++ ']' :: rest), []⟩ some).isSome = true := by
  rw [run_groupPattern]
  refine regular_character.isSome_run _ _ ['['] (mem_character.2 rfl) ⟨_, rfl⟩ fun s hs => ?_
  have hrest : s.rest = inner ++ ']' :: rest := hs.rest_eq rfl
  refine regular_mentionsPattern.isSome_run_group h ⟨_, hrest⟩ fun t ht => ?_
  exact regular_character.isSome_run _ _ [']'] (mem_character.2 rfl) ⟨_, ht.rest_eq hrest⟩ fun e he =>
    rfl

/-! ### Matches of mentions -/

theorem run_character {c : Char} {b r : List Char} {g : List (Nat × List Char)} {next : Next} :
    run (character c) ⟨b, c :: r, g⟩ next = next ⟨c :: b, r, g⟩ := by
  simp only [character, run, Spot.step, inSet_single.2, if_true]

theorem run_character_of_head {c : Char} {s : Spot} {next : Next} (h : ∀ d ∈ s.rest.head?, d ≠ c) :
    run (character c) s next = none := by
  obtain ⟨b, r, g⟩ := s
  cases r with
  | nil => rfl
  | cons d r =>
    have hd : ¬ inSet false false [.single c] d = true := fun hd => h d rfl (inSet_single.1 hd)
    simp only [character, run, Spot.step, if_neg hd]

/-- Behind the most rounds that there may be, a repetition ends. -/
theorem rounds_most (round : Spot → Next → Option Spot) (most fuel : Nat) (last : Option Nat)
    (s : Spot) (next : Next) : Pattern.rounds round 0 (some most) .greedy fuel most last s next = next s := by
  cases fuel with
  | zero => rfl
  | succ fuel => simp [Pattern.rounds]

theorem run_possibly (ps : List Pattern) (s : Spot) (next : Next) :
    run (possibly ps) s next = (Pattern.runSeq ps s next).or (next s) := by
  have hrounds : ∀ fuel, Pattern.rounds (fun s k => Pattern.runSeq ps s k) 0 (some 1) .greedy
      (fuel + 1) 0 none s next = (Pattern.runSeq ps s next).or (next s) := fun fuel => by
    rw [Pattern.rounds]
    simp only [zero_add, rounds_most, Nat.lt_irrefl, if_false, Option.all_some, zero_lt_one,
      decide_true, Bool.true_and, bne_iff_ne, ne_eq, reduceCtorEq, not_false_eq_true, if_true]
    cases Pattern.runSeq ps s next <;> rfl
  exact hrounds _

theorem locatorOf_append {u v : List Char} (hu : ∀ c ∈ u, Text.isBlank c = true) :
    locatorOf (u ++ v) = locatorOf v := by
  rw [locatorOf, locatorOf, Text.stripChars, Text.stripChars, Text.stripBy, Text.stripBy,
    Text.stripLeftBy, Text.stripLeftBy, List.dropWhile_append_of_pos hu]

/-- In front of what ends a piece there is nothing of a place. -/
theorem run_group_place {b rest : List Char} {g : List (Nat × List Char)}
    (hrest : ∀ c ∈ rest.head?, c = ';') : ∀ {v : List Char}, Unbroken v →
      run (.group (some 2) placeCharacters) ⟨b, v ++ rest, g⟩ some =
        if v = [] then none else some ⟨v.reverse ++ b, rest, (2, v) :: g⟩
  | [], _ => by
    rw [if_pos rfl, ← Option.not_isSome_iff_eq_none]
    intro hsome
    obtain ⟨e, he⟩ := Option.isSome_iff_exists.1 hsome
    obtain ⟨w, hw, t, ht, -⟩ := regular_characters.finds_group he
    obtain ⟨hne, hunbroken⟩ := mem_placeCharacters.1 hw
    obtain ⟨c, w, rfl⟩ := List.exists_cons_of_ne_nil hne
    have hhead : rest = c :: (w ++ t.rest) := ht.1
    exact (hunbroken c List.mem_cons_self).1 (hrest c (by simp [hhead]))
  | c :: v, hv => by
    rw [if_neg (by simp)]
    refine Pattern.run_group_greedy (fun d hd => ?_) (fun d hd => inSet_place.2 (hv d hd)) (by simp) rfl
    rw [hrest d hd]
    rfl

/-- Blanks behind the comma are read first, but not all of them if nothing else is left. -/
theorem exists_run_locator {place rest b : List Char} {g : List (Nat × List Char)}
    (hplace : place ≠ []) (hunbroken : Unbroken place) (hrest : ∀ c ∈ rest.head?, c = ';') :
    ∃ v, locatorOf v = locatorOf place ∧
      Pattern.runSeq [character ',', blanks, .group (some 2) placeCharacters]
        ⟨b, ',' :: (place ++ rest), g⟩ some =
          some ⟨place.reverse ++ ',' :: b, rest, (2, v) :: g⟩ := by
  have hrun : Pattern.runSeq [character ',', blanks, .group (some 2) placeCharacters]
      ⟨b, ',' :: (place ++ rest), g⟩ some =
        run blanks ⟨',' :: b, place ++ rest, g⟩ fun s => run (.group (some 2) placeCharacters) s some :=
    run_character
  have hsome : (run blanks ⟨',' :: b, place ++ rest, g⟩ fun s =>
      run (.group (some 2) placeCharacters) s some).isSome = true := by
    refine regular_characters.isSome_run _ _ [] (mem_blanks.2 (by simp)) ⟨_, rfl⟩ fun s hs => ?_
    rw [hs.eq_of_rest (v := place ++ rest) rfl, run_group_place hrest hunbroken, if_neg hplace]
    rfl
  obtain ⟨e, he⟩ := Option.isSome_iff_exists.1 hsome
  obtain ⟨u, hu, s, hus, hs⟩ := regular_characters.finds _ _ e he
  have hblank := mem_blanks.1 hu
  obtain ⟨v, rfl, hv⟩ : ∃ v, place = u ++ v ∧ s.rest = v ++ rest := by
    obtain ⟨v, hv, hrest'⟩ | ⟨v, hv, hs'⟩ := List.append_eq_append_iff.1 hus.1
    · cases v with
      | nil => exact ⟨[], by simpa using hv.symm, hrest'.symm⟩
      | cons c v =>
        have hc : c = ';' := hrest c (by simp [hrest'])
        have hmem : c ∈ u := by simp [hv]
        exact absurd (hblank c hmem) (by rw [hc]; decide)
    · exact ⟨v, hv, hs'⟩
  have hvunbroken := (unbroken_append.1 hunbroken).2
  dsimp only at hs
  rw [hus.eq_of_rest (v := v ++ rest) (List.append_assoc u v rest), run_group_place hrest hvunbroken]
    at hs
  split_ifs at hs with hne
  refine ⟨v, (locatorOf_append hblank).symm, ?_⟩
  rw [hrun, he, ← hs]
  simp

theorem run_mentionPattern (s : Spot) : run mentionPattern s some =
    run (character '@') s fun s => run (.group (some 1) nameCharacters) s fun s =>
      run (possibly [character ',', blanks, .group (some 2) placeCharacters]) s some :=
  rfl

/-- A mention in front of what ends a piece is matched as a whole. -/
theorem exists_run_mentionPattern {w id place rest : List Char} (h : Mentions w id place)
    (hplace : Unbroken place) (hrest : ∀ c ∈ rest.head?, c = ';') (b : List Char) :
    ∃ e, run mentionPattern ⟨b, w ++ rest, []⟩ some = some e ∧ e.before = w.reverse ++ b ∧
      mentionAt e = ⟨String.ofList id, locatorOf place⟩ := by
  obtain ⟨tail, rfl, hid, hname, htail⟩ := h
  have hstop : ∀ c ∈ (tail ++ rest).head?,
      inSet false false [.kind .word false false, .single '-'] c = false := fun c hc => by
    rw [inSet_name]
    exact htail.not_isIdChar hrest c hc
  have hrun : ∀ e, run (possibly [character ',', blanks, .group (some 2) placeCharacters])
      ⟨id.reverse ++ '@' :: b, tail ++ rest, [(1, id)]⟩ some = some e →
        run mentionPattern ⟨b, '@' :: (id ++ tail) ++ rest, []⟩ some = some e := by
    intro e he
    rw [List.cons_append, List.append_assoc, run_mentionPattern, run_character]
    exact Pattern.run_group_greedy hstop (fun c hc => (inSet_name c).trans (hname c hc))
      (List.length_pos_of_ne_nil hid) he
  simp only [run_possibly] at hrun
  obtain ⟨rfl, rfl⟩ | ⟨rfl, hne⟩ := htail
  · have hnone : Pattern.runSeq [character ',', blanks, .group (some 2) placeCharacters]
        ⟨id.reverse ++ '@' :: b, [] ++ rest, [(1, id)]⟩ some = none :=
      run_character_of_head fun c hc => by
        rw [hrest c hc]
        decide
    exact ⟨_, hrun _ (by rw [hnone, Option.none_or]), by simp, rfl⟩
  · obtain ⟨v, hv, hlocator⟩ := exists_run_locator hne hplace hrest
    exact ⟨_, hrun _ (by rw [List.cons_append, hlocator, Option.some_or]), by simp, by
      show Mention.mk (String.ofList id) (locatorOf v) = _
      rw [hv]⟩

/-! ### Matches one behind the other -/

theorem occurrencesFrom_skip (p : Pattern) : ∀ (skip : Nat) (before cs : List Char),
    occurrencesFrom p skip before cs =
      occurrencesFrom p 0 ((cs.take skip).reverse ++ before) (cs.drop skip)
  | skip, before, [] => by
    rw [List.drop_nil, occurrencesFrom, occurrencesFrom]
  | 0, before, c :: r => rfl
  | skip + 1, before, c :: r => by
    rw [occurrencesFrom, occurrencesFrom_skip p skip (c :: before) r]
    simp

theorem occurrencesFrom_of_run {p : Pattern} {before w rest : List Char} {e : Spot} (hw : w ≠ [])
    (h : run p ⟨before, w ++ rest, []⟩ some = some e) (he : e.before = w.reverse ++ before) :
    occurrencesFrom p 0 before (w ++ rest) =
      (before.length, e) :: occurrencesFrom p 0 (w.reverse ++ before) rest := by
  obtain ⟨c, w, rfl⟩ := List.exists_cons_of_ne_nil hw
  have hskip : e.index - before.length - 1 = w.length := by
    rw [Spot.index, he]
    simp only [List.length_append, List.length_reverse, List.length_cons]
    omega
  rw [List.cons_append] at h ⊢
  rw [occurrencesFrom]
  simp only [h]
  rw [hskip, occurrencesFrom_skip, List.take_left, List.drop_left]
  simp

theorem occurrencesFrom_of_none {p : Pattern} {before r : List Char} {c : Char}
    (h : run p ⟨before, c :: r, []⟩ some = none) :
    occurrencesFrom p 0 before (c :: r) = occurrencesFrom p 0 (c :: before) r := by
  rw [occurrencesFrom]
  simp only [h]

theorem occurrencesFrom_mention_of_not_mem {u : List Char} (hu : '@' ∉ u) (r : List Char) :
    ∀ before, occurrencesFrom mentionPattern 0 before (u ++ r) =
      occurrencesFrom mentionPattern 0 (u.reverse ++ before) r := by
  induction u with
  | nil => exact fun before => rfl
  | cons c u ih =>
    intro before
    simp only [List.mem_cons, not_or] at hu
    have hnone : run mentionPattern ⟨before, c :: (u ++ r), []⟩ some = none := by
      rw [run_mentionPattern]
      refine run_character_of_head fun d hd => ?_
      cases hd
      exact Ne.symm hu.1
    rw [List.cons_append, occurrencesFrom_of_none hnone, ih hu.2]
    simp

theorem atSign_notMem_of_blank {u : List Char} (h : ∀ c ∈ u, Text.isBlank c = true) : '@' ∉ u :=
  fun hat => by
    have := h _ hat
    rw [isBlank_atSign] at this
    cases this

/-- In the pieces of a group their mentions are matched, no more and no fewer. -/
theorem map_mentionAt_pieces : ∀ (pieces : List (List Char)) {piece before : List Char}
    {ms : List Mention}, (∀ p ∈ piece :: pieces, Unbroken p) →
      (piece :: pieces).mapM (fun p => mentionOf? (p.dropWhile Text.isBlank)) = some ms →
      (occurrencesFrom mentionPattern 0 before
        (piece ++ (pieces.map fun p => ';' :: p).flatten)).map (fun e => mentionAt e.2) = ms
  | pieces, piece, before, ms, hall, hms => by
    obtain ⟨hpiece, hpieces⟩ := List.forall_mem_cons.1 hall
    rw [List.mapM_cons] at hms
    obtain ⟨m, hm, hms⟩ := Option.bind_eq_some_iff.1 hms
    obtain ⟨rest, hrest, hms⟩ := Option.bind_eq_some_iff.1 hms
    cases hms
    obtain ⟨id, place, hmention, rfl⟩ := mentionOf?_eq_some_iff.1 hm
    have hsplit := List.takeWhile_append_dropWhile (p := Text.isBlank) (l := piece)
    have hblank : '@' ∉ piece.takeWhile Text.isBlank :=
      atSign_notMem_of_blank fun c hc => List.mem_takeWhile_imp hc
    rw [← hsplit, unbroken_append, hmention.unbroken_iff] at hpiece
    have hstop : ∀ c ∈ ((pieces.map fun p => ';' :: p).flatten).head?, c = ';' := by
      cases pieces with
      | nil => simp
      | cons p pieces =>
        rintro c ⟨⟩
        rfl
    have hne : piece.dropWhile Text.isBlank ≠ [] := by
      obtain ⟨tail, hw, -⟩ := hmention
      simp [hw]
    obtain ⟨e, he, hbefore, hmentionAt⟩ := exists_run_mentionPattern hmention hpiece.2 hstop
      ((piece.takeWhile Text.isBlank).reverse ++ before)
    rw [← hsplit, List.append_assoc, occurrencesFrom_mention_of_not_mem hblank,
      occurrencesFrom_of_run hne he hbefore, List.map_cons, hmentionAt]
    congr 1
    cases pieces with
    | nil =>
      cases hrest
      rfl
    | cons p pieces =>
      have hnone : ∀ before r, run mentionPattern ⟨before, ';' :: r, []⟩ some = none := fun _ _ => by
        rw [run_mentionPattern]
        refine run_character_of_head fun d hd => ?_
        cases hd
        decide
      rw [List.map_cons, List.flatten_cons, List.cons_append, occurrencesFrom_of_none (hnone _ _)]
      exact map_mentionAt_pieces pieces hpieces hrest

/-- **The second expression** finds in a group the mentions that the grammar says. -/
theorem mentionsOf_eq {inner : List Char} {ms : List Mention} (hbracket : ']' ∉ inner)
    (h : mentionsIn? inner = some ms) : mentionsOf inner = ms := by
  obtain ⟨piece, pieces, hsplit⟩ := List.exists_cons_of_ne_nil (List.splitOn_ne_nil ';' inner)
  have hinner : [';'].intercalate (piece :: pieces) = inner := hsplit ▸ List.intercalate_splitOn ';'
  have hall : ∀ p ∈ piece :: pieces, Unbroken p := fun p hp =>
    unbroken_iff.2 (notMem_piece hbracket (hsplit ▸ hp))
  rw [mentionsIn?, hsplit] at h
  obtain ⟨m, hm, h⟩ := Option.bind_eq_some_iff.1 h
  obtain ⟨id, place, hmention, -⟩ := mentionOf?_eq_some_iff.1 hm
  have hpiece : piece.dropWhile Text.isBlank = piece :=
    hmention.dropWhile_append (b := []) (by simp)
  rw [mentionsOf, ← hinner, Text.intercalate_cons]
  refine map_mentionAt_pieces pieces hall ?_
  rw [List.mapM_cons, hpiece, hm]
  exact h

/-! ### Texts -/

/-- **The first expression** finds the groups that the grammar says. -/
theorem exists_run_groupPattern {r inner : List Char} {c : Char} {ms : List Mention}
    (h : group? (c :: r) = some (inner, ms)) (before : List Char) :
    ∃ e, run groupPattern ⟨before, c :: r, []⟩ some = some e ∧
      e.index = before.length + inner.length + 2 ∧ mentionsOf (kept e 1) = ms := by
  obtain ⟨rest, rfl, rfl, hbracket, hms⟩ := exists_of_group? h
  have hlanguage : inner ∈ mentionsPattern.language := by
    rw [mem_mentionsPattern, hms]
    exact ⟨hbracket, rfl⟩
  obtain ⟨e, he⟩ := Option.isSome_iff_exists.1 (isSome_run_groupPattern hlanguage)
  obtain ⟨inner', rest', -, hr, hinner', hindex, hkept⟩ := exists_of_run_groupPattern he
  rw [hr, group?_append (mem_mentionsPattern.1 hinner').1] at h
  obtain ⟨_, -, hpair⟩ := Option.map_eq_some_iff.1 h
  obtain ⟨rfl, -⟩ := Prod.mk.inj hpair
  exact ⟨e, he, hindex, by rw [hkept, mentionsOf_eq hbracket hms]⟩

theorem run_groupPattern_eq_none {before r : List Char} {c : Char} (h : group? (c :: r) = none) :
    run groupPattern ⟨before, c :: r, []⟩ some = none := by
  rw [← Option.not_isSome_iff_eq_none]
  intro hsome
  obtain ⟨e, he⟩ := Option.isSome_iff_exists.1 hsome
  obtain ⟨inner, rest, rfl, rfl, hinner, -⟩ := exists_of_run_groupPattern he
  obtain ⟨hbracket, hsome⟩ := mem_mentionsPattern.1 hinner
  rw [group?_append hbracket, Option.map_eq_none_iff] at h
  simp [h] at hsome

theorem flatMap_occurrencesFrom (start : Nat) (cs : List Char) :
    ∀ before : List Char, before.length = start →
      (occurrencesFrom groupPattern 0 before cs).flatMap (fun e =>
        (mentionsOf (kept e.2 1)).map fun m => ⟨m.id, e.1, e.2.index, m.locator⟩) =
          scan start cs := by
  induction start, cs using scan.induct with
  | case1 start =>
    intro before _
    rw [occurrencesFrom, scan]
    rfl
  | case2 start c r inner ms h stop ih =>
    rintro before rfl
    obtain ⟨e, he, hindex, hms⟩ := exists_run_groupPattern h before
    obtain ⟨rest, rfl, rfl, -⟩ := exists_of_group? h
    have hskip : e.index - before.length - 1 = inner.length + 1 := by omega
    rw [occurrencesFrom, scan, h]
    simp only [he]
    rw [List.flatMap_cons, hms, hskip, occurrencesFrom_skip, ih]
    · rw [hindex]
    · simp only [List.length_append, List.length_reverse, List.length_take, List.length_cons, stop]
      omega
  | case3 start c r h ih =>
    rintro before rfl
    rw [occurrencesFrom_of_none (run_groupPattern_eq_none h), ih _ (by simp), scan, h]

/-- **The citations of a text**, found by the expressions or by the automaton, are those of its groups:
a group stands wherever the text between an opening bracket and the next closing one is cut into
mentions by its semicolons. -/
theorem extract_eq_scan (s : String) :
    extract s = scan 0 s.toList ∧ inText s = scan 0 s.toList :=
  ⟨flatMap_occurrencesFrom 0 s.toList [] rfl, inText_eq_scan s⟩

end SlidePress.Citation
