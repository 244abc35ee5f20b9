import Mathlib.Order.Nat
import SlidePress.Citation.Collect
import SlidePress.Citation.Inline
import SlidePress.Proofs.Attempt

/-! # Expanding citations

Collecting citations tells where the groups of a text stand and what they mention
(`Citation.groups`); expanding a text goes over its parts once more and knows nothing of places. Both
see the same groups: with what stands outside them kept and every group replaced by the citations of
what it mentions, in order and with repetitions, the text is the expanded one (`expand_eq`). The
source is asked once, for each name once in the order of first use; one that looks up names one by
one gives the same text as a shelf (`expand_eq_splice`).

The induction is on the parts of the text. What stands to the left of them is carried along, since
places count from the beginning of the text; a part is `Proper` if it is a group that is written with
at least one character and mentions something, which keeps the places of different groups apart. -/

namespace SlidePress

/-! ### Groups and their places -/

namespace Citation

/-- A group of citations in a text: where it begins and ends, and the references it mentions. -/
structure Group where
  start : Nat
  stop : Nat
  ids : List String
  deriving DecidableEq, Repr

/-- The groups that some citations stand in: neighbours with the same place belong together. -/
def groups : List Citation → List Group
  | [] => []
  | c :: cs =>
    match groups cs with
    | [] => [⟨c.start, c.stop, [c.id]⟩]
    | g :: gs =>
      if c.start = g.start ∧ c.stop = g.stop then ⟨g.start, g.stop, c.id :: g.ids⟩ :: gs
      else ⟨c.start, c.stop, [c.id]⟩ :: g :: gs

/-- Groups that stand one behind the other between two places. -/
def InOrder (stop : Nat) : Nat → List Group → Prop
  | pos, [] => pos ≤ stop
  | pos, g :: gs => pos ≤ g.start ∧ g.start < g.stop ∧ InOrder stop g.stop gs

/-- A text from a place on in which groups are replaced: what stands outside them is kept. -/
def splice (cs : List Char) (pos : Nat) : List (Group × List Char) → List Char
  | [] => cs.drop pos
  | (g, r) :: rest => cs.extract pos g.start ++ r ++ splice cs g.stop rest

/-- A part that is a character, or a group that is written and mentions something. -/
def Segment.Proper : Segment → Prop
  | .char _ => True
  | .group cs ms => cs ≠ [] ∧ ms ≠ []

theorem ne_nil_of_readFrom {p : Place} {got : List Mention} {cs : List Char} {ms : List Mention}
    {rest : List Char} (h : readFrom p got cs = some (ms, rest)) : ms ≠ [] := by
  induction cs generalizing p got with
  | nil => cases h
  | cons c r ih =>
    unfold readFrom at h
    split_ifs at h
    · obtain ⟨m, -, hm⟩ := Option.map_eq_some_iff.1 h
      cases hm
      simp
    · split at h
      · exact ih h
      · cases h
    · split at h
      · exact ih h
      · cases h

theorem proper_of_mem_segmentsFrom {skip : Nat} {cs : List Char} :
    ∀ part ∈ segmentsFrom skip cs, part.Proper := by
  induction cs generalizing skip with
  | nil => simp [segmentsFrom]
  | cons c r ih =>
    cases skip with
    | succ skip => exact ih
    | zero =>
      simp only [segmentsFrom]
      split
      · rename_i ms rest hread
        refine List.forall_mem_cons.2 ⟨⟨List.cons_ne_nil _ _, ?_⟩, ih⟩
        split_ifs at hread
        exact ne_nil_of_readFrom hread
      · exact List.forall_mem_cons.2 ⟨trivial, ih⟩

/-- Mentions of one place become one group in front of groups of other places. -/
theorem groups_append {start stop : Nat} {ms : List Mention} (hms : ms ≠ []) {cs : List Citation}
    (hcs : ∀ g ∈ (groups cs).head?, start < g.start) :
    groups (ms.map (fun m => ⟨m.id, start, stop, m.locator⟩) ++ cs) =
      ⟨start, stop, ms.map Mention.id⟩ :: groups cs := by
  induction ms with
  | nil => exact absurd rfl hms
  | cons m ms ih =>
    rcases eq_or_ne ms [] with rfl | hms
    · rw [List.map_singleton, List.singleton_append, groups]
      rcases hgroups : groups cs with _ | ⟨g, gs⟩
      · rfl
      · have hne : ¬ (start = g.start ∧ stop = g.stop) := fun h =>
          (hcs g (by rw [hgroups]; rfl)).ne h.1
        dsimp only
        rw [if_neg hne]
        rfl
    · rw [List.map_cons, List.cons_append, groups, ih hms]
      dsimp only
      rw [if_pos ⟨rfl, rfl⟩]
      rfl

theorem InOrder.mono {stop pos pos' : Nat} {gs : List Group} (h : InOrder stop pos gs)
    (hpos : pos' ≤ pos) : InOrder stop pos' gs := by
  cases gs with
  | nil => exact hpos.trans h
  | cons g gs => exact ⟨hpos.trans h.1, h.2⟩

theorem InOrder.head_le {stop pos : Nat} {gs : List Group} (h : InOrder stop pos gs) :
    ∀ g ∈ gs.head?, pos ≤ g.start := by
  cases gs with
  | nil => simp
  | cons g gs => simpa using h.1

/-- A group in front of others, all of which stand behind it. -/
theorem groups_ofSegments_group {start stop : Nat} {cs : List Char} {ms : List Mention}
    {parts : List Segment} (hpart : (Segment.group cs ms).Proper)
    (hparts : InOrder stop (start + cs.length) (groups (ofSegments (start + cs.length) parts))) :
    groups (ofSegments start (.group cs ms :: parts)) =
      ⟨start, start + cs.length, ms.map Mention.id⟩ ::
        groups (ofSegments (start + cs.length) parts) := by
  have hlt : start < start + cs.length := Nat.lt_add_of_pos_right (List.length_pos_iff.2 hpart.1)
  exact groups_append hpart.2 fun g hg => hlt.trans_le (hparts.head_le g hg)

/-- The groups of proper parts stand one behind the other. -/
theorem inOrder_groups {parts : List Segment} (hparts : ∀ part ∈ parts, part.Proper) (start : Nat) :
    InOrder (start + (parts.flatMap Segment.written).length) start
      (groups (ofSegments start parts)) := by
  induction parts generalizing start with
  | nil => exact Nat.le_refl start
  | cons part parts ih =>
    obtain ⟨hpart, hparts⟩ := List.forall_mem_cons.1 hparts
    have hrest := ih hparts (start + part.written.length)
    rw [List.flatMap_cons, List.length_append, ← Nat.add_assoc]
    cases part with
    | char c => exact hrest.mono (Nat.le_add_right start _)
    | group cs ms =>
      rw [groups_ofSegments_group hpart hrest]
      exact ⟨Nat.le_refl start, Nat.lt_add_of_pos_right (List.length_pos_iff.2 hpart.1), hrest⟩

/-- A character in front of all groups is kept. -/
theorem splice_char {stop : Nat} {cs : List Char} {pos : Nat} {c : Char} {rest : List Char}
    (hc : cs.drop pos = c :: rest) {gs : List Group} (hgs : InOrder stop (pos + 1) gs)
    (rs : List (List Char)) : splice cs pos (gs.zip rs) = c :: splice cs (pos + 1) (gs.zip rs) := by
  have hrest : cs.drop (pos + 1) = rest := by rw [← List.drop_drop, hc, List.drop_one, List.tail_cons]
  cases hzip : gs.zip rs with
  | nil => rw [splice, splice, hc, hrest]
  | cons gr grs =>
    have hmem : gr.1 ∈ gs.head? := by
      cases gs with
      | nil => cases hzip
      | cons g gs =>
        cases rs with
        | nil => cases hzip
        | cons r rs =>
          cases hzip
          rfl
    have hle := hgs.head_le gr.1 hmem
    have htake : gr.1.start - pos = gr.1.start - (pos + 1) + 1 := by omega
    rw [splice, splice, List.extract_eq_take_drop, List.extract_eq_take_drop, hc, hrest, htake,
      List.take_succ_cons, List.cons_append, List.cons_append]

/-- A text is what stands outside its groups and the groups. -/
theorem splice_extract {cs : List Char} {gs : List Group} {pos : Nat} (h : InOrder cs.length pos gs) :
    splice cs pos (gs.map fun g => (g, cs.extract g.start g.stop)) = cs.drop pos := by
  induction gs generalizing pos with
  | nil => rfl
  | cons g gs ih =>
    have hstart : cs.drop g.start = (cs.drop pos).drop (g.start - pos) := by
      rw [List.drop_drop, Nat.add_sub_cancel' h.1]
    have hstop : cs.drop g.stop = (cs.drop g.start).drop (g.stop - g.start) := by
      rw [List.drop_drop, Nat.add_sub_cancel' h.2.1.le]
    rw [List.map_cons, splice, ih h.2.2, List.extract_eq_take_drop, List.extract_eq_take_drop, hstop,
      List.append_assoc, List.take_append_drop, hstart, List.take_append_drop]

theorem map_id_ofSegments (start : Nat) (parts : List Segment) :
    (ofSegments start parts).map Citation.id = parts.flatMap CitationStyle.mentioned := by
  induction parts generalizing start with
  | nil => rfl
  | cons part parts ih =>
    cases part with
    | char c => exact ih (start + 1)
    | group cs ms =>
      rw [ofSegments, List.map_append, ih, List.map_map, List.flatMap_cons]
      rfl

/-- A group mentions what is cited. -/
theorem mem_map_id_of_mem_groups {cs : List Citation} {g : Group} (hg : g ∈ groups cs) {id : String}
    (hid : id ∈ g.ids) : id ∈ cs.map Citation.id := by
  induction cs generalizing g with
  | nil => cases hg
  | cons c cs ih =>
    rw [groups] at hg
    rw [List.map_cons, List.mem_cons]
    split at hg
    · obtain rfl := List.mem_singleton.1 hg
      exact .inl (List.mem_singleton.1 hid)
    · rename_i g' gs hgs
      split_ifs at hg
      · obtain rfl | hg := List.mem_cons.1 hg
        · exact (List.mem_cons.1 hid).imp_right (ih (hgs ▸ List.mem_cons_self))
        · exact .inr (ih (hgs ▸ List.mem_cons_of_mem _ hg) hid)
      · obtain rfl | hg := List.mem_cons.1 hg
        · exact .inl (List.mem_singleton.1 hid)
        · exact .inr (ih (hgs ▸ hg) hid)

/-- The names that are asked for are those of the citations of the text. -/
theorem eraseDups_mentioned (s : String) :
    ((segments s.toList).flatMap CitationStyle.mentioned).eraseDups = ids (inText s) := by
  rw [← map_id_ofSegments 0]
  rfl

theorem isEmpty_ids {cs : List Citation} : (ids cs).isEmpty = true ↔ cs = [] := by
  cases cs with
  | nil => exact iff_of_true rfl rfl
  | cons c cs =>
    rw [ids, List.map_cons, List.eraseDups_cons]
    exact iff_of_false Bool.false_ne_true (List.cons_ne_nil _ _)

end Citation

/-! ### Expanding -/

namespace CitationStyle

open Citation

variable (st : CitationStyle)

/-- What takes the place of a group, by the references that are held: the citations of what the
group mentions. -/
def written (held : String → Option Reference) (g : Group) : Attempt (List Char) := do
  let cites ← g.ids.mapM fun id =>
    match held id with
    | some r => st.inline r
    | none => .ok (unknown id)
  return (Text.join st.multiSep cites).toList

/-- A text with its groups replaced where they stand. -/
def spliced (held : String → Option Reference) (s : String) : Attempt String := do
  let gs := groups (inText s)
  let rs ← gs.mapM (st.written held)
  return String.ofList (splice s.toList 0 (gs.zip rs))

theorem segment_group (found : List (String × Reference)) (cs : List Char) (ms : List Mention)
    (start stop : Nat) :
    st.segment found (.group cs ms) =
      st.written (fun id => found.lookup id) ⟨start, stop, ms.map Mention.id⟩ := by
  rw [segment, written, List.mapM_map]
  rfl

/-- **Part by part or place by place**, a text is replaced by the same. -/
theorem flatten_mapM_segment (found : List (String × Reference)) {parts : List Segment}
    (hparts : ∀ part ∈ parts, part.Proper) {cs : List Char} {start : Nat}
    (hcs : cs.drop start = parts.flatMap Segment.written) {gs : List Group}
    (hgs : groups (ofSegments start parts) = gs) :
    List.flatten <$> parts.mapM (st.segment found) =
      (fun rs => splice cs start (gs.zip rs)) <$>
        gs.mapM (st.written fun id => found.lookup id) := by
  subst hgs
  induction parts generalizing start with
  | nil =>
    show Except.ok [] = Except.ok (cs.drop start)
    rw [hcs]
    rfl
  | cons part parts ih =>
    obtain ⟨hpart, hparts⟩ := List.forall_mem_cons.1 hparts
    have hinOrder := inOrder_groups hparts (start + part.written.length)
    have hdrop : cs.drop (start + part.written.length) = parts.flatMap Segment.written := by
      rw [← List.drop_drop, hcs, List.flatMap_cons, List.drop_left]
    have ih := ih hparts hdrop
    cases part with
    | char c =>
      have hleft : List.flatten <$> (Segment.char c :: parts).mapM (st.segment found) =
          List.cons c <$> List.flatten <$> parts.mapM (st.segment found) := by
        rw [List.mapM_cons]
        cases parts.mapM (st.segment found) <;> rfl
      rw [hleft, ih, Functor.map_map]
      congr 1
      funext rs
      exact (splice_char hcs hinOrder rs).symm
    | group written ms =>
      have hleft : List.flatten <$> (Segment.group written ms :: parts).mapM (st.segment found) =
          st.segment found (.group written ms) >>= fun r =>
            (r ++ ·) <$> List.flatten <$> parts.mapM (st.segment found) := by
        rw [List.mapM_cons]
        cases st.segment found (.group written ms) <;>
          cases parts.mapM (st.segment found) <;> rfl
      rw [hleft, ih, groups_ofSegments_group hpart hinOrder, List.mapM_cons,
        st.segment_group found written ms start (start + written.length), map_bind]
      congr 1
      funext r
      rw [map_bind, Functor.map_map, ← bind_pure_comp]
      congr 1
      funext rs
      refine congrArg Except.ok ?_
      show r ++ splice cs (start + written.length) _ = cs.extract start start ++ r ++ splice cs _ _
      rw [List.extract_eq_take_drop, Nat.sub_self, List.take_zero, List.nil_append]
      rfl

/-- **Expanding a text** leaves what stands outside its groups and replaces every group by what it
mentions. The source is asked once, for the names of the citations of the text, each once in the
order of first use, and only if there is a citation. -/
theorem expand_eq (source : ReferenceSource) (s : String) :
    st.expand source s =
      if inText s = [] then .ok s
      else source.findAll (ids (inText s)) >>= fun found =>
        Lookup.ofAttempt (st.spliced (fun id => found.lookup id) s) := by
  have hparts : ∀ part ∈ segments s.toList, part.Proper := proper_of_mem_segmentsFrom
  have htext : s.toList.drop 0 = (segments s.toList).flatMap Segment.written :=
    (written_segments s.toList).symm
  unfold expand
  dsimp only
  rw [eraseDups_mentioned]
  by_cases hs : inText s = []
  · rw [if_pos hs, if_pos (isEmpty_ids.2 hs)]
    rfl
  · rw [if_neg hs, if_neg (mt isEmpty_ids.1 hs)]
    congr 1
    funext found
    have hwritten := st.flatten_mapM_segment found hparts htext rfl
    have hofList : st.spliced (fun id => found.lookup id) s =
        String.ofList <$> List.flatten <$> (segments s.toList).mapM (st.segment found) := by
      rw [hwritten, Functor.map_map]
      rfl
    rw [hofList]
    cases (segments s.toList).mapM (st.segment found) <;> rfl

theorem spliced_congr {held held' : String → Option Reference} {s : String}
    (h : ∀ id ∈ (inText s).map Citation.id, held id = held' id) :
    st.spliced held s = st.spliced held' s := by
  have hwritten : ∀ g ∈ groups (inText s), st.written held g = st.written held' g := by
    intro g hg
    have hids : (g.ids.mapM fun id =>
        match held id with
        | some r => st.inline r
        | none => .ok (unknown id)) = g.ids.mapM fun id =>
        match held' id with
        | some r => st.inline r
        | none => .ok (unknown id) :=
      Attempt.mapM_congr fun id hid => by rw [h id (mem_map_id_of_mem_groups hg hid)]
    rw [written, written, hids]
  rw [spliced, spliced, Attempt.mapM_congr hwritten]

/-- What has been found by names can be looked up by them. -/
theorem lookup_filterMap (held : String → Option Reference) (id : String) :
    ∀ ids : List String,
      (ids.filterMap fun id => (held id).map fun r => (id, r)).lookup id =
        if id ∈ ids then held id else none
  | [] => by simp
  | id' :: ids => by
    have ih := lookup_filterMap held id ids
    rw [List.filterMap_cons]
    by_cases hid : id = id'
    · subst hid
      rw [if_pos List.mem_cons_self]
      cases hheld : held id with
      | none =>
        rw [hheld, ite_self] at ih
        exact ih
      | some r => exact List.lookup_cons_self
    · have hmem : id ∈ id' :: ids ↔ id ∈ ids := by simp [hid]
      simp only [hmem, ← ih]
      cases held id' with
      | none => rfl
      | some r =>
        show List.lookup id ((id', r) :: _) = _
        rw [List.lookup_cons, beq_false_of_ne hid]

/-- A text is expanded by what a shelf holds. -/
theorem expand_shelf (shelf : Shelf) (s : String) :
    st.expand shelf.source s =
      Lookup.ofAttempt (st.spliced (fun id => shelf.get? (.str id)) s) := by
  rw [expand_eq]
  split_ifs with hs
  · have hnil : st.spliced (fun id => shelf.get? (.str id)) s = .ok (String.ofList s.toList) := by
      rw [spliced, hs]
      rfl
    rw [hnil, String.ofList_toList]
    rfl
  · have hlookup : ∀ id ∈ (inText s).map Citation.id,
        (shelf.findAll (ids (inText s))).lookup id = shelf.get? (.str id) := by
      intro id hid
      have hmem : id ∈ (ids (inText s)).eraseDups := by
        rw [List.mem_eraseDups, ids, List.mem_eraseDups]
        exact hid
      rw [Shelf.findAll, lookup_filterMap (fun id => shelf.get? (.str id)), if_pos hmem]
    rw [← st.spliced_congr hlookup]
    rfl

/-- **Expanding a text with a shelf** replaces every group by the citations of what it mentions; a
source that finds the same references one by one expands it in the same way. -/
theorem expand_eq_splice (s : String) :
    InOrder s.toList.length 0 (groups (inText s)) ∧
    splice s.toList 0 ((groups (inText s)).map fun g => (g, s.toList.extract g.start g.stop)) =
      s.toList ∧
    (∀ source, st.expand source s =
      if inText s = [] then .ok s
      else source.findAll (ids (inText s)) >>= fun found =>
        Lookup.ofAttempt (st.spliced (fun id => found.lookup id) s)) ∧
    ∀ shelf : Shelf,
      st.expand shelf.source s = Lookup.ofAttempt (st.spliced (fun id => shelf.get? (.str id)) s) ∧
      st.expand (.ofFind true shelf.source.find) s = st.expand shelf.source s := by
  have horder : InOrder s.toList.length 0 (groups (inText s)) := by
    have hparts : ∀ part ∈ segments s.toList, part.Proper := proper_of_mem_segmentsFrom
    have h := inOrder_groups hparts 0
    rwa [written_segments, Nat.zero_add] at h
  refine ⟨horder, splice_extract horder, fun source => st.expand_eq source s, fun shelf =>
    ⟨st.expand_shelf shelf s, ?_⟩⟩
  rw [expand_eq, expand_eq, Shelf.findAll_ofFind]

end CitationStyle

end SlidePress
