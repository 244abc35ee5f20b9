import Mathlib.Logic.Function.Basic
import SlidePress.Proofs.Layout.Round
import SlidePress.Proofs.Layout.Token

/-! # Answers take exactly the places of their tokens

A draft is a list of pieces: texts that are written out and tokens of recorded requests, in any
order. So are the answers, one rank after the other: the answer to a text to expand may hold tokens
of citations and icons, that of a citation tokens of icons, and that of an icon none. The text meant
by a draft is the one with every answer spliced in, recursively (`Answers.spliced`).

Answers are in fact put in by replacing one token after the other in the whole text. One such step
turns the pieces of the text into others and leaves the text meant by them as it is
(`replaceAll_spell`, `spell_subst`), so the steps for one kind of token do too (`fillFrom_spell`),
and at the end, when no token is left, the text is the text meant (`fill_written`). -/

namespace SlidePress

namespace Piece

variable {τ σ : Type}

/-- The pieces with other tokens in place of the tokens. -/
def map (e : τ → σ) : List (Piece τ) → List (Piece σ)
  | [] => []
  | lit s :: ps => lit s :: map e ps
  | token t :: ps => token (e t) :: map e ps

theorem spell_map (f : σ → List Char) (e : τ → σ) :
    ∀ ps : List (Piece τ), spell f (map e ps) = spell (fun t => f (e t)) ps
  | [] => rfl
  | lit s :: ps => by simp [map, spell_map f e ps]
  | token t :: ps => by simp [map, spell_map f e ps]

/-- Every token of some pieces satisfies `P`. -/
def Only (P : τ → Prop) (ps : List (Piece τ)) : Prop := ∀ t, token t ∈ ps → P t

theorem Only.imp {P Q : τ → Prop} {ps : List (Piece τ)} (h : Only P ps) (hi : ∀ t, P t → Q t) :
    Only Q ps := fun t ht => hi t (h t ht)

theorem only_map {P : σ → Prop} (e : τ → σ) (he : ∀ t, P (e t)) :
    ∀ ps : List (Piece τ), Only P (map e ps)
  | [], _, ht => by simp [map] at ht
  | lit s :: ps, t, ht => only_map e he ps t (by simpa [map] using ht)
  | token u :: ps, t, ht => by
    simp only [map, List.mem_cons, token.injEq] at ht
    rcases ht with rfl | ht
    · exact he u
    · exact only_map e he ps t ht

/-- Without tokens it does not matter what they stand for. -/
theorem spell_congr_of_only {P : τ → Prop} {f g : τ → List Char} (h : ∀ t, P t → f t = g t) :
    ∀ {ps : List (Piece τ)}, Only P ps → spell f ps = spell g ps
  | [], _ => rfl
  | lit s :: ps, hp => by
    rw [spell_lit, spell_lit, spell_congr_of_only h fun t ht => hp t (List.mem_cons_of_mem _ ht)]
  | token t :: ps, hp => by
    rw [spell_token, spell_token, h t (hp t List.mem_cons_self),
      spell_congr_of_only h fun t ht => hp t (List.mem_cons_of_mem _ ht)]

variable [DecidableEq τ]

/-- Pieces `qs` in place of every occurrence of a token. -/
def subst (t : τ) (qs : List (Piece τ)) : List (Piece τ) → List (Piece τ)
  | [] => []
  | lit s :: ps => lit s :: subst t qs ps
  | token u :: ps => if u = t then qs ++ subst t qs ps else token u :: subst t qs ps

/-- Where a token stands for the text of the pieces put in its place, the whole text stays. -/
theorem spell_subst (g : τ → List Char) {t : τ} {qs : List (Piece τ)} (h : g t = spell g qs) :
    ∀ ps : List (Piece τ), spell g (subst t qs ps) = spell g ps
  | [] => rfl
  | lit s :: ps => by rw [subst, spell_lit, spell_lit, spell_subst g h ps]
  | token u :: ps => by
    rw [subst]
    split_ifs with hu
    · rw [spell_append, spell_subst g h ps, spell_token, hu, h]
    · rw [spell_token, spell_token, spell_subst g h ps]

theorem only_subst {P : τ → Prop} {t : τ} {qs : List (Piece τ)} (hq : Only P qs) :
    ∀ {ps : List (Piece τ)}, Only (fun u => u ≠ t → P u) ps → Only P (subst t qs ps)
  | [], _, _, hu => by simp [subst] at hu
  | lit s :: ps, hp, u, hu =>
    only_subst hq (fun v hv => hp v (List.mem_cons_of_mem _ hv)) u (by simpa [subst] using hu)
  | token v :: ps, hp, u, hu => by
    have ih : Only P (subst t qs ps) := only_subst hq fun w hw => hp w (List.mem_cons_of_mem _ hw)
    rw [subst] at hu
    split_ifs at hu with hv
    · rcases List.mem_append.1 hu with hu | hu
      · exact hq u hu
      · exact ih u hu
    · rcases List.mem_cons.1 hu with hu | hu
      · cases hu
        exact hp v List.mem_cons_self hv
      · exact ih u hu

end Piece

namespace Requests

open Piece

/-! ### One token after the other -/

theorem replaceAll_keep {old new rest : List Char} (h : old ≠ []) :
    ∀ cs : List Char, (∀ l, l ≠ [] → l <:+ cs → ¬ old <+: l ++ rest) →
      Text.replaceAll old new (cs ++ rest) = cs ++ Text.replaceAll old new rest
  | [], _ => rfl
  | c :: cs, hk => by
    have hc : ¬ old <+: c :: (cs ++ rest) := hk (c :: cs) (by simp) List.suffix_rfl
    rw [List.cons_append, Text.replaceAll_cons h hc,
      replaceAll_keep h cs fun l hl hs => hk l hl (hs.trans (List.suffix_cons c cs)),
      List.cons_append]

/-- A token does not begin inside a text that is written out. -/
theorem not_token_isPrefix_lit (g : RequestKind × Nat → List Char) (t : RequestKind × Nat)
    {cs : List Char} {ps : List (Piece (RequestKind × Nat))}
    (hm : ¬ marker <:+: cs ++ spell g ps) {l : List Char} (hl : l ≠ []) (hs : l <:+ cs) :
    ¬ tok t <+: l ++ spell tok ps := by
  obtain ⟨r, rfl⟩ := hs
  refine not_token_isPrefix g t (a := []) (by simp) ps l (by simpa using hl) fun hc => hm ?_
  rw [List.append_assoc]
  exact hc.trans (List.suffix_append r _).isInfix

/-- A token does not begin inside another one. -/
theorem not_token_isPrefix_token (g : RequestKind × Nat → List Char) {t u : RequestKind × Nat}
    (hne : u ≠ t) {ps : List (Piece (RequestKind × Nat))} (hm : ¬ marker <:+: spell g ps)
    {l : List Char} (hl : l ≠ []) (hs : l <:+ tok u) : ¬ tok t <+: l ++ spell tok ps := by
  obtain ⟨r, hr⟩ := hs
  have hlen : (tok u).length = (stem u.1).length + (Nat.toDigits 10 u.2).length + 3 := by
    simp [tok_eq]; omega
  have hrl : r.length + l.length = (tok u).length := by rw [← hr, List.length_append]
  intro hp
  obtain ⟨z, hz⟩ := hp
  rcases Nat.eq_zero_or_pos r.length with h0 | h1
  · rw [List.eq_nil_of_length_eq_zero h0, List.nil_append] at hr
    rw [hr] at hz
    exact hne (token_unique hz.symm)
  · rcases Nat.lt_or_ge r.length ((stem u.1).length + (Nat.toDigits 10 u.2).length) with hj | hj
    · -- `l` would begin with three underscores
      obtain ⟨i, hi, c, hc, hcne⟩ := token_inner u h1 hj
      have hli : i < l.length := by omega
      have hti : i < (tok t).length := (List.getElem?_eq_some_iff.1 (tok_getElem? t hi)).1
      have e := congrArg (·[i]?) hz
      simp only [List.getElem?_append_left hti, List.getElem?_append_left hli,
        tok_getElem? t hi] at e
      rw [← hr, List.getElem?_append_right (by omega), Nat.add_sub_cancel_left, ← e] at hc
      exact hcne (Option.some.inj hc).symm
    · -- `l` is part of the three underscores at the end
      refine not_token_isPrefix g t (a := l) (by omega) ps [] (by simpa using hl)
        (by simpa using hm) ⟨z, ?_⟩
      rw [hz, List.append_nil]

/-- **One step**: replacing a token in the text replaces it in the pieces. -/
theorem replaceAll_spell (g : RequestKind × Nat → List Char) (t : RequestKind × Nat)
    (qs : List (Piece (RequestKind × Nat))) :
    ∀ ps : List (Piece (RequestKind × Nat)), ¬ marker <:+: spell g ps →
      Text.replaceAll (tok t) (spell tok qs) (spell tok ps) = spell tok (subst t qs ps)
  | [], _ => Text.replaceAll_nil (tok_ne_nil t)
  | .lit s :: ps, hm => by
    have hm' : ¬ marker <:+: spell g ps := fun h => hm (h.trans (List.suffix_append _ _).isInfix)
    rw [subst, spell_lit, spell_lit, ← replaceAll_spell g t qs ps hm',
      replaceAll_keep (tok_ne_nil t) _ fun l hl hs => not_token_isPrefix_lit g t hm hl hs]
  | .token u :: ps, hm => by
    have hm' : ¬ marker <:+: spell g ps := fun h => hm (h.trans (List.suffix_append _ _).isInfix)
    rw [subst, spell_token]
    split_ifs with hu
    · rw [hu, Text.replaceAll_append (tok_ne_nil t), replaceAll_spell g t qs ps hm', spell_append]
    · rw [spell_token, ← replaceAll_spell g t qs ps hm', replaceAll_keep (tok_ne_nil t) _
        fun l hl hs => not_token_isPrefix_token g hu hm' hl hs]

/-! ### One kind of token after the other -/

/-- Kinds by what their answers may hold: tokens of lower rank. -/
def rank : RequestKind → Nat
  | .icon => 0
  | .cite => 1
  | .expand => 2

theorem rank_injective {k k' : RequestKind} (h : rank k = rank k') : k = k' := by
  cases k <;> cases k' <;> first | rfl | cases h

theorem rank_le_expand (k : RequestKind) : rank k ≤ rank .expand := by
  cases k <;> decide

/-- **All steps for one kind.** Where `g` says what the tokens mean, the text meant stays, and only
tokens of lower rank are left. What holds of all tokens (`P`) bounds the numbers of those that are
to be replaced. -/
theorem fillFrom_spell (g : RequestKind × Nat → List Char) (k : RequestKind)
    (P : RequestKind × Nat → Prop) :
    ∀ (qss : List (List (Piece (RequestKind × Nat)))) (n : Nat)
      (ps : List (Piece (RequestKind × Nat))), (∀ m, P (k, m) → m < n + qss.length) →
      ¬ marker <:+: spell g ps →
      (∀ i qs, qss[i]? = some qs →
        g (k, n + i) = spell g qs ∧ Only (fun u => P u ∧ rank u.1 < rank k) qs) →
      Only (fun u => P u ∧ (u.1 = k → n ≤ u.2) ∧ rank u.1 ≤ rank k) ps →
      ∃ ps', fillFrom (token k) n (qss.map fun qs => String.ofList (spell tok qs))
          (String.ofList (spell tok ps)) = String.ofList (spell tok ps') ∧
        spell g ps' = spell g ps ∧ Only (fun u => P u ∧ rank u.1 < rank k) ps'
  | [], n, ps, hP, _, _, hp => by
    refine ⟨ps, rfl, rfl, hp.imp fun u hu => ⟨hu.1, lt_of_le_of_ne hu.2.2 fun h => ?_⟩⟩
    obtain ⟨k', m⟩ := u
    obtain rfl : k' = k := rank_injective h
    have h1 := hu.2.1 rfl
    have h2 := hP m hu.1
    simp only [List.length_nil, Nat.add_zero] at h2
    omega
  | qs :: qss, n, ps, hP, hm, hq, hp => by
    obtain ⟨hg, hqs⟩ := hq 0 qs rfl
    have hspell : spell g (subst (k, n) qs ps) = spell g ps := spell_subst g hg ps
    have hleft : Only (fun u => P u ∧ (u.1 = k → n + 1 ≤ u.2) ∧ rank u.1 ≤ rank k)
        (subst (k, n) qs ps) := by
      have hqs' : Only (fun u => P u ∧ (u.1 = k → n + 1 ≤ u.2) ∧ rank u.1 ≤ rank k) qs :=
        hqs.imp fun u hu => ⟨hu.1, fun h => absurd (congrArg rank h) hu.2.ne, hu.2.le⟩
      refine only_subst hqs' (hp.imp fun u hu hne => ⟨hu.1, fun h => ?_, hu.2.2⟩)
      have hn : u.2 ≠ n := fun h' => hne (Prod.ext h h')
      have := hu.2.1 h
      omega
    obtain ⟨ps', he, hf, ho⟩ := fillFrom_spell g k P qss (n + 1) (subst (k, n) qs ps)
      (fun m h => by have := hP m h; rw [List.length_cons] at this; omega) (by rwa [hspell])
      (fun i qs' hi => by
        have := hq (i + 1) qs' (by simpa using hi)
        rwa [← Nat.add_assoc, Nat.add_right_comm] at this) hleft
    refine ⟨ps', ?_, hf.trans hspell, ho⟩
    rw [← he, List.map_cons, fillFrom, Text.replace, String.toList_ofList, String.toList_ofList]
    exact congrArg _ (congrArg _ (replaceAll_spell g (k, n) qs ps hm))

/-! ### Drafts and answers -/

/-- A token of a recorded request. -/
inductive Token (r : Requests) where
  | icon (n : Fin r.icons.length)
  | cite (n : Fin r.cites.length)
  | expand (n : Fin r.expands.length)

variable {r : Requests}

namespace Token

/-- The kind and number of a token. -/
def key : Token r → RequestKind × Nat
  | icon n => (.icon, n)
  | cite n => (.cite, n)
  | expand n => (.expand, n)

/-- The call of a token's request. -/
def call : Token r → Call
  | icon n => .icon r.icons[n]
  | cite n => .cite r.cites[n]
  | expand n => .expand r.expands[n]

/-- The tokens of a kind, by number. -/
def ofKind (r : Requests) : RequestKind → List (Token r)
  | .icon => List.ofFn icon
  | .cite => List.ofFn cite
  | .expand => List.ofFn expand

theorem key_injective : Function.Injective (key (r := r)) := by
  intro t u h
  cases t <;> cases u <;> simp_all [key, Fin.ext_iff]

theorem map_call_ofKind (r : Requests) (k : RequestKind) :
    (ofKind r k).map call = r.calls k := by
  cases k <;> exact List.ext_getElem (by simp [ofKind, calls]) fun i _ _ => by
    simp [ofKind, calls, call]

theorem key_of_getElem? {k : RequestKind} {i : Nat} {t : Token r}
    (h : (ofKind r k)[i]? = some t) : t.key = (k, i) := by
  obtain ⟨hi, rfl⟩ := List.getElem?_eq_some_iff.1 h
  cases k <;> simp [ofKind, key]

theorem lt_length_ofKind {k : RequestKind} {m : Nat} {t : Token r} (h : t.key = (k, m)) :
    m < (ofKind r k).length := by
  cases t <;> cases h <;> simp [ofKind]

end Token

/-- How the requests are answered, request by request: an answer to a text to expand may hold tokens
of citations and icons, a citation tokens of icons. -/
structure Answers (r : Requests) where
  icon : Fin r.icons.length → String
  cite : Fin r.cites.length → List (Piece (Fin r.icons.length))
  expand : Fin r.expands.length → List (Piece (Fin r.cites.length ⊕ Fin r.icons.length))

/-- The text of a draft, tokens and all. -/
def written (ps : List (Piece (Token r))) : String :=
  String.ofList (spell (fun t => tok t.key) ps)

namespace Answers

variable (a : Answers r)

/-- The answer to a request. -/
def answer : Token r → List (Piece (Token r))
  | .icon n => [.lit (a.icon n)]
  | .cite n => Piece.map .icon (a.cite n)
  | .expand n => Piece.map (Sum.elim .cite .icon) (a.expand n)

/-- The text of a citation with the icons in it spliced in. -/
def citeMeant (n : Fin r.cites.length) : List Char := spell (fun i => (a.icon i).toList) (a.cite n)

/-- What a token stands for in the end: the answer to its request, with the answers to the tokens in
it spliced in. -/
def meant : Token r → List Char
  | .icon n => (a.icon n).toList
  | .cite n => a.citeMeant n
  | .expand n => spell (Sum.elim a.citeMeant fun i => (a.icon i).toList) (a.expand n)

/-- The draft with all answers spliced in. -/
def spliced (draft : List (Piece (Token r))) : String := String.ofList (spell a.meant draft)

/-- The calls of the requests of a kind, each with its answer. -/
def asked (k : RequestKind) : List (Call × Ending SlideError String) :=
  (Token.ofKind r k).map fun t => (t.call, .ok (written (a.answer t)))

/-- The calls are those of the recorded requests, in their order. -/
theorem map_fst_asked (k : RequestKind) : (a.asked k).map Prod.fst = r.calls k := by
  rw [← Token.map_call_ofKind, asked, List.map_map]
  rfl

/-- What a token stands for is its answer with what the tokens in it stand for. -/
theorem meant_eq (t : Token r) : a.meant t = spell a.meant (a.answer t) := by
  cases t with
  | icon n => simp [meant, answer]
  | cite n => rw [answer, spell_map]; rfl
  | expand n =>
    rw [answer, spell_map, meant]
    congr 1
    funext t
    cases t <;> rfl

theorem only_answer (t : Token r) :
    Only (fun u => rank u.key.1 < rank t.key.1) (a.answer t) := by
  cases t with
  | icon n => intro u hu; simp [answer] at hu
  | cite n => exact only_map _ (fun i => by simp [Token.key, rank]) _
  | expand n => exact only_map _ (fun u => by cases u <;> simp [Token.key, rank]) _

/-- The kinds and numbers of recorded requests. -/
def Recorded (r : Requests) (u : RequestKind × Nat) : Prop := ∃ t : Token r, t.key = u

/-- What a kind and number stand for; nothing where there is no such request. -/
noncomputable def meaning : RequestKind × Nat → List Char :=
  Function.extend Token.key a.meant fun _ => []

theorem meaning_key (t : Token r) : a.meaning t.key = a.meant t :=
  Token.key_injective.extend_apply a.meant _ t

theorem spell_meaning_map (ps : List (Piece (Token r))) :
    spell a.meaning (Piece.map Token.key ps) = spell a.meant ps := by
  rw [spell_map]
  congr 1
  funext t
  exact a.meaning_key t

theorem recorded_map {P : RequestKind × Nat → Prop} {ps : List (Piece (Token r))}
    (h : Only (fun t => P t.key) ps) :
    Only (fun u => Recorded r u ∧ P u) (Piece.map Token.key ps) := by
  induction ps with
  | nil => intro u hu; simp [Piece.map] at hu
  | cons p ps ih =>
    have ih' := ih fun t ht => h t (List.mem_cons_of_mem _ ht)
    intro u hu
    cases p with
    | lit s => exact ih' u (by simpa [Piece.map] using hu)
    | token t =>
      simp only [Piece.map, List.mem_cons, Piece.token.injEq] at hu
      rcases hu with rfl | hu
      · exact ⟨⟨t, rfl⟩, h t List.mem_cons_self⟩
      · exact ih' u hu

/-- **One kind of request**: its answers take the places of its tokens. -/
theorem fillFrom_asked (k : RequestKind) {ps : List (Piece (RequestKind × Nat))}
    (hm : ¬ marker <:+: spell a.meaning ps)
    (hp : Only (fun u => Recorded r u ∧ rank u.1 ≤ rank k) ps) :
    ∃ ps', fillFrom (token k) 0 ((Token.ofKind r k).map fun t => written (a.answer t))
          (String.ofList (spell tok ps)) = String.ofList (spell tok ps') ∧
        spell a.meaning ps' = spell a.meaning ps ∧
        Only (fun u => Recorded r u ∧ rank u.1 < rank k) ps' := by
  obtain ⟨ps', h1, h2, h3⟩ := fillFrom_spell a.meaning k (Recorded r)
    ((Token.ofKind r k).map fun t => Piece.map Token.key (a.answer t)) 0 ps
    (by
      rintro m ⟨t, ht⟩
      simpa using Token.lt_length_ofKind ht)
    hm
    (by
      intro i qs hi
      rw [List.getElem?_map, Option.map_eq_some_iff] at hi
      obtain ⟨t, ht, rfl⟩ := hi
      have hk := Token.key_of_getElem? ht
      refine ⟨?_, recorded_map (P := fun u => rank u.1 < rank k) ?_⟩
      · rw [Nat.zero_add, ← hk, meaning_key, meant_eq, spell_meaning_map]
      · exact (a.only_answer t).imp fun u hu => by rwa [hk] at hu)
    (hp.imp fun u hu => ⟨hu.1, fun _ => Nat.zero_le _, hu.2⟩)
  refine ⟨ps', ?_, h2, h3⟩
  rw [← h1, List.map_map]
  congr 1
  refine List.map_congr_left fun t _ => ?_
  rw [Function.comp_apply, written, spell_map]

theorem fill_written (draft : List (Piece (Token r)))
    (h : ¬ marker <:+: (a.spliced draft).toList) :
    fill ((Token.ofKind r .icon).map fun t => written (a.answer t))
      ((Token.ofKind r .cite).map fun t => written (a.answer t))
      ((Token.ofKind r .expand).map fun t => written (a.answer t)) (written draft) =
      a.spliced draft := by
  rw [spliced, String.toList_ofList, ← spell_meaning_map] at h
  have h0 : Only (fun u => Recorded r u ∧ rank u.1 ≤ rank .expand) (Piece.map Token.key draft) :=
    recorded_map (P := fun u => rank u.1 ≤ rank .expand) fun t _ => rank_le_expand t.key.1
  obtain ⟨p1, e1, m1, o1⟩ := a.fillFrom_asked .expand h h0
  have h1 : ¬ marker <:+: spell a.meaning p1 := by rwa [m1]
  obtain ⟨p2, e2, m2, o2⟩ := a.fillFrom_asked .cite h1
    (o1.imp fun u hu => ⟨hu.1, Nat.le_of_lt_succ hu.2⟩)
  have h2 : ¬ marker <:+: spell a.meaning p2 := by rwa [m2]
  obtain ⟨p3, e3, m3, o3⟩ := a.fillFrom_asked .icon h2
    (o2.imp fun u hu => ⟨hu.1, Nat.le_of_lt_succ hu.2⟩)
  have hnone : spell tok p3 = spell a.meaning p3 :=
    spell_congr_of_only (fun u hu => absurd hu.2 (Nat.not_lt_zero _)) o3
  have hdraft : written draft = String.ofList (spell tok (Piece.map Token.key draft)) := by
    rw [written, spell_map]
  rw [fill, hdraft]
  change fillFrom (token .icon) 0 _
    (fillFrom (token .cite) 0 _ (fillFrom (token .expand) 0 _ _)) = _
  rw [e1, e2, e3, hnone, m3, m2, m1, spell_meaning_map]
  rfl

end Answers

/-- **Answers take exactly the places of their tokens.** Whatever was recorded and however the
tokens stand in the draft and in the answers: if the text with all answers spliced in holds no
`_PLACEHOLDER_`, that text is what comes of the draft. -/
theorem ending_resolveWith_asked (a : Answers r) (pace : Pace) (draft : List (Piece (Token r)))
    (h : ¬ "_PLACEHOLDER_".toList <:+: (a.spliced draft).toList) :
    (resolveWith pace a.asked (written draft)).ending = .ok (a.spliced draft) := by
  have hround (k : RequestKind) : (Course.round (pace k) (a.asked k)).ending =
      .ok ((Token.ofKind r k).map fun t => written (a.answer t)) :=
    Course.ending_round_of_ok (pace k) (by simp [Answers.asked, Function.comp_def])
  simp only [resolveWith, Course.ending_bind, hround, Course.ending_pure]
  show Except.ok _ = _
  rw [a.fill_written draft h]

/-- Requests for twelve icons, a citation and a text to expand. -/
def dozen : Requests := ⟨List.replicate 12 ⟨"x", .null⟩, ["k"], ["see @k"]⟩

/-- The icon with a number. -/
def dozenIcon (n : Nat) (h : n < 12 := by decide) : Fin dozen.icons.length := ⟨n, h⟩

/-- Answers to them: the icons are answered by their numbers, the citation and the text to expand
hold tokens. -/
def dozenAnswers : Answers dozen where
  icon n := toString n.val
  cite _ := [.token (dozenIcon 1), .lit "_"]
  expand _ := [.lit "see ", .token (.inl ⟨0, Nat.one_pos⟩), .token (.inr (dozenIcon 11))]

/-- A draft with tokens side by side, among underscores and in front of digits. -/
def dozenDraft : List (Piece (Token dozen)) :=
  [.lit "_", .token (.icon (dozenIcon 1)), .token (.icon (dozenIcon 10)),
    .token (.icon (dozenIcon 11)), .lit "0___", .token (.expand ⟨0, Nat.one_pos⟩),
    .token (.icon (dozenIcon 1)), .lit "__"]

theorem ending_resolveWith_dozen :
    ¬ "_PLACEHOLDER_".toList <:+: (dozenAnswers.spliced dozenDraft).toList ∧
      dozenAnswers.spliced dozenDraft = "_110110___see 1_111__" ∧
      (resolveWith Pace.even dozenAnswers.asked (written dozenDraft)).ending =
        .ok (dozenAnswers.spliced dozenDraft) := by
  have h : dozenAnswers.spliced dozenDraft = "_110110___see 1_111__" := by decide +kernel
  have hm : ¬ "_PLACEHOLDER_".toList <:+: (dozenAnswers.spliced dozenDraft).toList := by
    rw [h]; decide
  exact ⟨hm, h, ending_resolveWith_asked dozenAnswers Pace.even dozenDraft hm⟩

end Requests

end SlidePress
