import SlidePress.Proofs.Layout.Splicing

/-! # Tokens that are left

Answers are put in by one pass over the recorded requests: first the texts to expand, then the
citations, then the icons, each kind by its numbers. Every token has one turn. An answer may hold
tokens of any requests, and a token that comes in with it after its own turn stays.

On the pieces of a text the pass puts pieces in the place of one token after the other (`pass`), and
on the text it does the same (`foldl_replace_written`). So what is left can be read off the pieces:
a token is left exactly if it stands in an answer that was put in at the turn of that token or
later (`mem_pass_turns`). A text to expand that passes on the token of an earlier one is the case
that a template can bring about. -/

namespace SlidePress

namespace Piece

variable {τ : Type} [DecidableEq τ]

theorem subst_append (t : τ) (qs : List (Piece τ)) :
    ∀ ps ps' : List (Piece τ), subst t qs (ps ++ ps') = subst t qs ps ++ subst t qs ps'
  | [], _ => rfl
  | lit s :: ps, ps' => congrArg (lit s :: ·) (subst_append t qs ps ps')
  | token u :: ps, ps' => by
    rw [List.cons_append, subst, subst, subst_append t qs ps ps']
    split_ifs
    · rw [List.append_assoc]
    · rfl

theorem mem_subst (t u : τ) (qs : List (Piece τ)) :
    ∀ ps : List (Piece τ), token u ∈ subst t qs ps ↔
      (u ≠ t ∧ token u ∈ ps) ∨ (token t ∈ ps ∧ token u ∈ qs)
  | [] => by simp [subst]
  | lit s :: ps => by simp [subst, mem_subst t u qs ps]
  | token v :: ps => by
    rw [subst]
    split_ifs with hv
    · subst hv
      simp only [List.mem_append, mem_subst v u qs ps, List.mem_cons, token.injEq]
      tauto
    · simp only [mem_subst t u qs ps, List.mem_cons, token.injEq]
      constructor
      · rintro (rfl | h | h)
        · exact .inl ⟨hv, .inl rfl⟩
        · exact .inl ⟨h.1, .inr h.2⟩
        · exact .inr ⟨.inr h.1, h.2⟩
      · rintro (⟨hne, rfl | h⟩ | ⟨rfl | h, h'⟩)
        · exact .inl rfl
        · exact .inr (.inl ⟨hne, h⟩)
        · exact absurd rfl hv
        · exact .inr (.inr ⟨h, h'⟩)

end Piece

namespace Requests

open Piece

/-! ### Tokens in a text -/

/-- A word that begins nowhere in front of a text is in the whole exactly if it is in the text. -/
theorem isInfix_append_iff {w as bs : List Char} (h : ∀ l, l ≠ [] → l <:+ as → ¬ w <+: l ++ bs) :
    w <:+: as ++ bs ↔ w <:+: bs := by
  refine ⟨fun ⟨x, y, hxy⟩ => ?_, fun hw => hw.trans (List.suffix_append _ _).isInfix⟩
  rw [List.append_assoc, List.append_eq_append_iff] at hxy
  obtain ⟨l, hl, hw⟩ | ⟨l, -, hbs⟩ := hxy
  · by_cases hnil : l = []
    · exact ⟨[], y, by rwa [hnil] at hw⟩
    · exact absurd ⟨y, hw⟩ (h l hnil ⟨x, hl.symm⟩)
  · exact ⟨l, y, by rw [hbs, List.append_assoc]⟩

/-- **A token in a text is one that was put there**, as long as no marker is written out. -/
theorem tok_isInfix_iff (g : RequestKind × Nat → List Char) (t : RequestKind × Nat) :
    ∀ ps : List (Piece (RequestKind × Nat)), ¬ marker <:+: spell g ps →
      (tok t <:+: spell tok ps ↔ Piece.token t ∈ ps)
  | [], _ => by simp [tok_ne_nil]
  | .lit s :: ps, hm => by
    have hm' : ¬ marker <:+: spell g ps := fun h => hm (h.trans (List.suffix_append _ _).isInfix)
    rw [spell_lit, List.mem_cons, or_iff_right (by simp), ← tok_isInfix_iff g t ps hm']
    exact isInfix_append_iff fun l hl hs => not_token_isPrefix_lit g t hm hl hs
  | .token u :: ps, hm => by
    have hm' : ¬ marker <:+: spell g ps := fun h => hm (h.trans (List.suffix_append _ _).isInfix)
    rw [spell_token, List.mem_cons, Piece.token.injEq]
    by_cases hu : t = u
    · subst hu
      exact iff_of_true (List.prefix_append _ _).isInfix (.inl rfl)
    · rw [or_iff_right hu, ← tok_isInfix_iff g t ps hm']
      exact isInfix_append_iff fun l hl hs => not_token_isPrefix_token g (Ne.symm hu) hm' hl hs

variable {r : Requests}

namespace Token

instance : DecidableEq (Token r) := fun t u => decidable_of_iff (t.key = u.key) key_injective.eq_iff

/-- The turn of `t` comes before that of `u`: the kind of `t` is handled first, or they are of one
kind and `t` has the smaller number. -/
def Before (t u : Token r) : Prop :=
  rank u.key.1 < rank t.key.1 ∨ (t.key.1 = u.key.1 ∧ t.key.2 < u.key.2)

theorem Before.irrefl (t : Token r) : ¬ t.Before t := by
  rintro (h | ⟨-, h⟩) <;> exact absurd h (Nat.lt_irrefl _)

theorem Before.asymm {t u : Token r} (h : t.Before u) : ¬ u.Before t := by
  rintro h'
  rcases h with h | ⟨hk, h⟩ <;> rcases h' with h' | ⟨hk', h'⟩
  · exact Nat.lt_asymm h h'
  · exact absurd (hk' ▸ h) (Nat.lt_irrefl _)
  · exact absurd (hk ▸ h') (Nat.lt_irrefl _)
  · exact Nat.lt_asymm h h'

/-- The tokens in the order of their turns. -/
def turns (r : Requests) : List (Token r) :=
  ofKind r .expand ++ (ofKind r .cite ++ ofKind r .icon)

theorem mem_ofKind {t : Token r} {k : RequestKind} : t ∈ ofKind r k ↔ t.key.1 = k := by
  cases k <;> cases t <;> simp [ofKind, key, List.mem_ofFn]

theorem mem_turns (t : Token r) : t ∈ turns r := by
  simp only [turns, List.mem_append, mem_ofKind]
  cases t.key.1 <;> simp

theorem pairwise_ofKind (r : Requests) (k : RequestKind) : (ofKind r k).Pairwise Before := by
  rw [List.pairwise_iff_getElem]
  intro i j hi hj hij
  have hki := key_of_getElem? (List.getElem?_eq_getElem hi)
  have hkj := key_of_getElem? (List.getElem?_eq_getElem hj)
  exact .inr ⟨by rw [hki, hkj], by rw [hki, hkj]; exact hij⟩

/-- Each token has one turn, and the turns are in order. -/
theorem pairwise_turns (r : Requests) : (turns r).Pairwise Before := by
  have hranks {k k' : RequestKind} (h : rank k' < rank k) : ∀ t ∈ ofKind r k, ∀ u ∈ ofKind r k',
      t.Before u := fun t ht u hu => .inl (by rwa [mem_ofKind.1 ht, mem_ofKind.1 hu])
  refine List.pairwise_append.2 ⟨pairwise_ofKind r .expand, List.pairwise_append.2
    ⟨pairwise_ofKind r .cite, pairwise_ofKind r .icon, hranks (by decide)⟩, fun t ht u hu => ?_⟩
  rcases List.mem_append.1 hu with hu | hu
  · exact hranks (by decide) t ht u hu
  · exact hranks (by decide) t ht u hu

/-- The tokens that had their turn are those whose turn is before the next one. -/
theorem mem_done_iff {done rest : List (Token r)} {v : Token r} (h : done ++ v :: rest = turns r)
    (t : Token r) : t ∈ done ↔ t.Before v := by
  obtain ⟨-, hrest, hdone⟩ := List.pairwise_append.1 (h ▸ pairwise_turns r)
  refine ⟨fun ht => hdone t ht v List.mem_cons_self, fun hb => ?_⟩
  rcases List.mem_append.1 (h ▸ mem_turns t) with ht | ht
  · exact ht
  · rcases List.mem_cons.1 ht with rfl | ht
    · exact absurd hb (Before.irrefl t)
    · exact absurd hb ((List.pairwise_cons.1 hrest).1 t ht).asymm

end Token

/-! ### One pass -/

section

variable (answer : Token r → List (Piece (Token r)))

/-- Pieces after the turns of some tokens, where every token is replaced by its answer. -/
def pass (ts : List (Token r)) (ps : List (Piece (Token r))) : List (Piece (Token r)) :=
  ts.foldl (fun ps t => subst t (answer t) ps) ps

@[simp] theorem pass_cons (t : Token r) (ts : List (Token r)) (ps : List (Piece (Token r))) :
    pass answer (t :: ts) ps = pass answer ts (subst t (answer t) ps) := rfl

theorem pass_append (ts : List (Token r)) (ps qs : List (Piece (Token r))) :
    pass answer ts (ps ++ qs) = pass answer ts ps ++ pass answer ts qs := by
  induction ts generalizing ps qs with
  | nil => rfl
  | cons t ts ih => rw [pass_cons, subst_append, ih, pass_cons, pass_cons]

theorem pass_lit (ts : List (Token r)) (s : String) : pass answer ts [.lit s] = [.lit s] := by
  induction ts with
  | nil => rfl
  | cons t ts ih => exact ih

/-- What a token stands for in a text to which some turns are still to come: `g` says what the
tokens that are left after them stand for. -/
def pending (g : Token r → List Char) (ts : List (Token r)) (u : Token r) : List Char :=
  spell g (pass answer ts [.token u])

theorem spell_pass (g : Token r → List Char) (ts : List (Token r)) :
    ∀ ps : List (Piece (Token r)), spell g (pass answer ts ps) = spell (pending answer g ts) ps
  | [] => by
    have h : pass answer ts [] = [] := by
      induction ts with
      | nil => rfl
      | cons t ts ih => exact ih
    rw [h, spell_nil, spell_nil]
  | .lit s :: ps => by
    rw [← List.singleton_append, pass_append, spell_append, pass_lit, spell_pass g ts ps]
    simp
  | .token u :: ps => by
    rw [← List.singleton_append, pass_append, spell_append, spell_pass g ts ps]
    simp [pending]

theorem map_key_subst (t : Token r) (qs : List (Piece (Token r))) :
    ∀ ps : List (Piece (Token r)),
      Piece.map Token.key (subst t qs ps) =
        subst t.key (Piece.map Token.key qs) (Piece.map Token.key ps)
  | [] => rfl
  | .lit s :: ps => congrArg (Piece.lit s :: ·) (map_key_subst t qs ps)
  | .token u :: ps => by
    have happend (as bs : List (Piece (Token r))) :
        Piece.map Token.key (as ++ bs) = Piece.map Token.key as ++ Piece.map Token.key bs := by
      induction as with
      | nil => rfl
      | cons a as ih => cases a <;> exact congrArg (_ :: ·) ih
    rw [subst, Piece.map, subst]
    simp only [Token.key_injective.eq_iff]
    split_ifs
    · rw [happend, map_key_subst t qs ps]
    · rw [Piece.map, map_key_subst t qs ps]

theorem written_eq (ps : List (Piece (Token r))) :
    written ps = String.ofList (spell tok (Piece.map Token.key ps)) := by
  rw [written, spell_map]

theorem exists_spell_map (g : Token r → List Char) : ∃ g' : RequestKind × Nat → List Char,
    ∀ ps, spell g' (Piece.map Token.key ps) = spell g ps := by
  refine ⟨Function.extend Token.key g fun _ => [], fun ps => ?_⟩
  rw [spell_map]
  congr 1
  funext t
  exact Token.key_injective.extend_apply g _ t

/-- **One turn**: replacing a token in the text replaces it in the pieces. -/
theorem replace_written (g : Token r → List Char) (t : Token r) {qs ps : List (Piece (Token r))}
    (hm : ¬ marker <:+: spell g ps) :
    Text.replace (token t.key.1 t.key.2) (written qs) (written ps) = written (subst t qs ps) := by
  obtain ⟨g', hg⟩ := exists_spell_map g
  rw [written_eq, written_eq, written_eq, map_key_subst, Text.replace, String.toList_ofList,
    String.toList_ofList]
  exact congrArg _ (replaceAll_spell g' t.key _ _ (by rwa [hg]))

/-- **All turns**: what is done to the pieces is done to the text. -/
theorem foldl_replace_written (g : Token r → List Char) (ts : List (Token r))
    {ps : List (Piece (Token r))} (hm : ¬ marker <:+: spell g (pass answer ts ps)) :
    ts.foldl (fun s t => Text.replace (token t.key.1 t.key.2) (written (answer t)) s)
      (written ps) = written (pass answer ts ps) := by
  induction ts generalizing ps with
  | nil => rfl
  | cons t ts ih =>
    have hstep : Text.replace (token t.key.1 t.key.2) (written (answer t)) (written ps) =
        written (subst t (answer t) ps) :=
      replace_written (pending answer g (t :: ts)) t (by rwa [← spell_pass])
    rw [List.foldl_cons, hstep, ih hm, pass_cons]

theorem fillFrom_eq_foldl (k : RequestKind) :
    ∀ (n : Nat) (ts : List (Token r)), (∀ i t, ts[i]? = some t → t.key = (k, n + i)) →
      ∀ s, fillFrom (token k) n (ts.map fun t => written (answer t)) s =
        ts.foldl (fun s t => Text.replace (token t.key.1 t.key.2) (written (answer t)) s) s
  | _, [], _, _ => rfl
  | n, t :: ts, h, s => by
    rw [List.map_cons, fillFrom, List.foldl_cons, h 0 t rfl]
    exact fillFrom_eq_foldl k (n + 1) ts (fun i u hu => by
      rw [h (i + 1) u hu, Nat.add_right_comm, Nat.add_assoc]) _

/-- The answers to the requests of a kind, in their order. -/
def answers (k : RequestKind) : List String := (Token.ofKind r k).map fun t => written (answer t)

/-- Filling in the answers is a pass over the turns. -/
theorem fill_eq_foldl (s : String) :
    fill (answers answer .icon) (answers answer .cite) (answers answer .expand) s =
      (Token.turns r).foldl
        (fun s t => Text.replace (token t.key.1 t.key.2) (written (answer t)) s) s := by
  have hkind (k : RequestKind) (s : String) := fillFrom_eq_foldl answer k 0 (Token.ofKind r k)
    (fun i t ht => by rw [Token.key_of_getElem? ht, Nat.zero_add]) s
  rw [Token.turns, List.foldl_append, List.foldl_append, ← hkind, ← hkind, ← hkind]
  rfl

/-! ### What is left -/

/-- An answer is used if its token stands in the draft, or in a used answer before its turn. -/
inductive Used (draft : List (Piece (Token r))) : Token r → Prop where
  | draft {t : Token r} : .token t ∈ draft → Used draft t
  | answer {t u : Token r} : Used draft t → .token u ∈ answer t → t.Before u → Used draft u

theorem used_iff {draft : List (Piece (Token r))} (u : Token r) :
    Used answer draft u ↔ .token u ∈ draft ∨
      ∃ t, Used answer draft t ∧ .token u ∈ answer t ∧ t.Before u := by
  constructor
  · rintro (h | ⟨ht, h, hb⟩)
    · exact .inl h
    · exact .inr ⟨_, ht, h, hb⟩
  · rintro (h | ⟨t, ht, h, hb⟩)
    · exact .draft h
    · exact .answer ht h hb

/-- **What one turn leaves as it is.** In the middle of the pass, the tokens in the text are those
of the draft whose turn is to come, and those in the answers used so far that had no turn since. -/
theorem mem_pass {draft : List (Piece (Token r))} :
    ∀ {done rest : List (Token r)}, done ++ rest = Token.turns r → ∀ u : Token r,
      .token u ∈ pass answer done draft ↔
        (u ∉ done ∧ .token u ∈ draft) ∨
          ∃ t ∈ done, Used answer draft t ∧ .token u ∈ answer t ∧ (u ∈ done → ¬ t.Before u) := by
  intro done
  induction done using List.reverseRecOn with
  | nil =>
    intro rest _ u
    simp [pass]
  | append_singleton done v ih =>
    intro rest hturns u
    have hturns' : done ++ v :: rest = Token.turns r := by rw [← hturns, List.append_assoc]; rfl
    have hdone (t : Token r) : t ∈ done ↔ t.Before v := Token.mem_done_iff hturns' t
    -- the turn of `v` takes `v` out and, if it was there, brings the tokens of its answer
    have hused : Piece.token v ∈ pass answer done draft ↔ Used answer draft v := by
      rw [ih hturns' v, used_iff]
      simp only [hdone, Token.Before.irrefl, not_false_eq_true, true_and, false_implies, and_true]
      refine or_congr_right (exists_congr fun t => ?_)
      tauto
    rw [pass, List.foldl_append, List.foldl_cons, List.foldl_nil, mem_subst]
    change (u ≠ v ∧ Piece.token u ∈ pass answer done draft) ∨
      (Piece.token v ∈ pass answer done draft ∧ _) ↔ _
    rw [hused, ih hturns' u]
    simp only [List.mem_append, List.mem_singleton]
    constructor
    · rintro (⟨hne, ⟨h, hd⟩ | ⟨t, ht, hu, h, hb⟩⟩ | ⟨hu, h⟩)
      · exact .inl ⟨by tauto, hd⟩
      · exact .inr ⟨t, .inl ht, hu, h, by tauto⟩
      · refine .inr ⟨v, .inr rfl, hu, h, ?_⟩
        rintro (hd | rfl)
        · exact ((hdone u).1 hd).asymm
        · exact Token.Before.irrefl u
    · rintro (⟨hnot, hd⟩ | ⟨t, ht | rfl, hu, h, hb⟩)
      · exact .inl ⟨by tauto, .inl ⟨by tauto, hd⟩⟩
      · refine .inl ⟨?_, .inr ⟨t, ht, hu, h, fun hd => hb (.inl hd)⟩⟩
        rintro rfl
        exact hb (.inr rfl) ((hdone t).1 ht)
      · exact .inr ⟨hu, h⟩

/-- At the end a token is left if it stands in a used answer whose turn was not before its own. -/
theorem mem_pass_turns (draft : List (Piece (Token r))) (u : Token r) :
    .token u ∈ pass answer (Token.turns r) draft ↔
      ∃ t, Used answer draft t ∧ .token u ∈ answer t ∧ ¬ t.Before u := by
  rw [mem_pass answer (List.append_nil _) u]
  simp [Token.mem_turns]

/-- The calls of the requests of a kind, each with its answer. -/
def askedWith (k : RequestKind) : List (Call × Ending SlideError String) :=
  (Token.ofKind r k).map fun t => (t.call, .ok (written (answer t)))

/-- **Which tokens are left.** Whatever was recorded, and whatever tokens the answers pass on: the
draft is filled in, and of the tokens of recorded requests the text holds exactly those that stand
in a used answer whose turn was not before theirs. So no token is left exactly if the used answers
hold only tokens whose turn is still to come; the answer to a text to expand must not pass on the
token of an earlier one. Apart from the tokens, the text is to hold no marker. -/
theorem exists_ending_tokens_iff (pace : Pace) (draft : List (Piece (Token r)))
    (h : ¬ "_PLACEHOLDER_".toList <:+: spell (fun _ => [' ']) (pass answer (Token.turns r) draft)) :
    ∃ text, (resolveWith pace (askedWith answer) (written draft)).ending = .ok text ∧
      ∀ u : Token r, (token u.key.1 u.key.2).toList <:+: text.toList ↔
        ∃ t, Used answer draft t ∧ .token u ∈ answer t ∧ ¬ t.Before u := by
  have hround (k : RequestKind) :
      (Course.round (pace k) (askedWith answer k)).ending = .ok (answers answer k) :=
    Course.ending_round_of_ok (pace k) (by simp [askedWith, answers, Function.comp_def])
  refine ⟨written (pass answer (Token.turns r) draft), ?_, fun u => ?_⟩
  · simp only [resolveWith, Course.ending_bind, hround, Course.ending_pure]
    show Except.ok _ = _
    rw [fill_eq_foldl, foldl_replace_written answer _ _ h]
  · obtain ⟨g, hg⟩ := exists_spell_map fun _ : Token r => [' ']
    have hinfix := tok_isInfix_iff g u.key (Piece.map Token.key (pass answer (Token.turns r) draft))
      (by rwa [hg])
    rw [written_eq, String.toList_ofList, ← mem_pass_turns]
    refine hinfix.trans ?_
    induction pass answer (Token.turns r) draft with
    | nil => simp [Piece.map]
    | cons p ps ih => cases p <;> simp [Piece.map, ih, Token.key_injective.eq_iff]

end

/-- Two texts to expand, the second of which holds the token of the first. -/
def nested : Requests := ⟨[], [], [ "b", "a " ++ expandToken 0]⟩

/-- The token of the first one. -/
def nestedInner : Token nested := .expand ⟨0, by decide⟩

/-- The token of the second one. -/
def nestedOuter : Token nested := .expand ⟨1, by decide⟩

/-- Nothing in the texts is to be expanded: the answers are the texts themselves. -/
def nestedAnswer : Token nested → List (Piece (Token nested))
  | .expand ⟨0, _⟩ => [.lit "b"]
  | _ => [.lit "a ", .token nestedInner]

theorem exists_ending_nested :
    (¬ "_PLACEHOLDER_".toList <:+:
      spell (fun _ => [' ']) (pass nestedAnswer (Token.turns nested) [.token nestedOuter])) ∧
    ∃ text, (resolveWith Pace.even (askedWith nestedAnswer)
        (written [.token nestedOuter])).ending = .ok text ∧
      (token nestedInner.key.1 nestedInner.key.2).toList <:+: text.toList := by
  have h : ¬ "_PLACEHOLDER_".toList <:+:
      spell (fun _ => [' ']) (pass nestedAnswer (Token.turns nested) [.token nestedOuter]) := by
    decide
  obtain ⟨text, hend, hleft⟩ := exists_ending_tokens_iff nestedAnswer Pace.even _ h
  refine ⟨h, text, hend, (hleft nestedInner).2 ⟨nestedOuter, .draft List.mem_cons_self, ?_, ?_⟩⟩
  · exact List.mem_cons_of_mem _ List.mem_cons_self
  · exact Token.Before.asymm (.inr ⟨rfl, Nat.zero_lt_one⟩)

end Requests

end SlidePress
