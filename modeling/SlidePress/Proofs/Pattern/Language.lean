import Mathlib.Computability.Language
import Mathlib.Tactic.SplitIfs
import SlidePress.Pattern.Match

/-! # What expressions match

An expression that looks neither around nor back, and keeps nothing of what it reads, stands for a set
of texts (`language`). The matcher tries the ways in which a text of this set may lie at a place one
after the other, so it finds a match with something behind it exactly if there is a text of the set
with it behind: what it finds is one (`Regular.finds`), and it finds one if there is any
(`Regular.isSome_run`). A repetition whose body matches no empty text is never cut short by the bound
on its rounds.

* `Regular.search_iff`: a search succeeds exactly if a text of the set is somewhere.
* `run_greedy`: characters are repeated as often as they can be, if one can go on from there. -/

namespace SlidePress.Pattern

/-- What a repetition goes on with after some rounds: as many more as are asked for. -/
def more (L : Language Char) (least : Nat) (most : Option Nat) (done : Nat) : Language Char :=
  {w | ∃ k, least ≤ done + k ∧ (∀ m, most = some m → done + k ≤ m) ∧ w ∈ L ^ k}

mutual

/-- **The texts an expression stands for**, if it does nothing else than to read them. -/
def language : Pattern → Language Char
  | one negated ignoreCase cs => {w | ∃ c, w = [c] ∧ inSet negated ignoreCase cs c = true}
  | any all => {w | ∃ c, w = [c] ∧ (all || c != '\n') = true}
  | seq ps => languageSeq ps
  | alt ps => languageAlt ps
  | group _ p => language p
  | loop least most _ p => more (language p) least most 0
  | _ => 0
termination_by structural p => p

/-- The texts that consist of one text for each expression. -/
def languageSeq : List Pattern → Language Char
  | [] => 1
  | p :: ps => language p * languageSeq ps
termination_by structural ps => ps

/-- The texts of one of some expressions. -/
def languageAlt : List Pattern → Language Char
  | [] => 0
  | p :: ps => language p + languageAlt ps
termination_by structural ps => ps

end

/-- Expressions that only read: they do not look around or back and keep nothing, and what they repeat
is not empty. -/
inductive Regular : Pattern → Prop
  | one {negated ignoreCase : Bool} {cs : List Class} : Regular (.one negated ignoreCase cs)
  | any {all : Bool} : Regular (.any all)
  | seq {ps : List Pattern} (h : ∀ p ∈ ps, Regular p) : Regular (.seq ps)
  | alt {ps : List Pattern} (h : ∀ p ∈ ps, Regular p) : Regular (.alt ps)
  | group {p : Pattern} (h : Regular p) : Regular (.group none p)
  | loop {least : Nat} {most : Option Nat} {mode : Mode} {p : Pattern} (h : Regular p)
      (hmode : mode ≠ .firm) (hmost : ∀ m, most = some m → least ≤ m) (hempty : [] ∉ p.language) :
      Regular (.loop least most mode p)

theorem mem_cons_languageSeq {p : Pattern} {ps : List Pattern} {w : List Char} :
    w ∈ languageSeq (p :: ps) ↔ ∃ u v, w = u ++ v ∧ u ∈ p.language ∧ v ∈ languageSeq ps := by
  rw [languageSeq, Language.mem_mul]
  constructor
  · rintro ⟨u, hu, v, hv, rfl⟩
    exact ⟨u, v, rfl, hu, hv⟩
  · rintro ⟨u, v, rfl, hu, hv⟩
    exact ⟨u, hu, v, hv, rfl⟩

theorem mem_nil_languageSeq {w : List Char} : w ∈ languageSeq [] ↔ w = [] := Iff.rfl

theorem languageSeq_append : ∀ ps qs : List Pattern,
    languageSeq (ps ++ qs) = languageSeq ps * languageSeq qs
  | [], qs => (one_mul _).symm
  | p :: ps, qs => by rw [List.cons_append, languageSeq, languageSeq, languageSeq_append, mul_assoc]

/-! ### Places behind one another -/

/-- One place is behind a text that is at another. -/
def Spot.Behind (s : Spot) (w : List Char) (s' : Spot) : Prop :=
  s.rest = w ++ s'.rest ∧ s'.before = w.reverse ++ s.before ∧ s'.groups = s.groups

namespace Spot.Behind

variable {s t s' : Spot} {u v : List Char}

theorem refl (s : Spot) : s.Behind [] s := ⟨rfl, rfl, rfl⟩

theorem trans (h : s.Behind u t) (h' : t.Behind v s') : s.Behind (u ++ v) s' := by
  refine ⟨?_, ?_, h'.2.2.trans h.2.2⟩
  · rw [h.1, h'.1, List.append_assoc]
  · rw [h'.2.1, h.2.1, List.reverse_append, List.append_assoc]

theorem length_rest (h : s.Behind u t) : s.rest.length = u.length + t.rest.length := by
  rw [h.1, List.length_append]

theorem index_eq (h : s.Behind u t) : t.index = u.length + s.index := by
  rw [Spot.index, h.2.1, List.length_append, List.length_reverse]
  rfl

theorem rest_eq (h : s.Behind u t) (hr : s.rest = u ++ v) : t.rest = v :=
  List.append_cancel_left (h.1.symm.trans hr)

theorem eq_of_rest (h : s.Behind u t) (hr : s.rest = u ++ v) :
    t = ⟨u.reverse ++ s.before, v, s.groups⟩ := by
  obtain rfl := h.rest_eq hr
  obtain ⟨before, rest, groups⟩ := t
  obtain ⟨-, rfl, rfl⟩ := h
  rfl

/-- What has been read since a place. -/
theorem read_eq (h : s.Behind u t) : (t.before.take (t.index - s.index)).reverse = u := by
  have hlength : t.index - s.index = u.reverse.length := by
    rw [h.index_eq, Nat.add_sub_cancel, List.length_reverse]
  rw [hlength, h.2.1, List.take_left, List.reverse_reverse]

end Spot.Behind

theorem behind_of_step {s s' : Spot} {c : Char} (h : s.step = some (c, s')) : s.Behind [c] s' := by
  obtain ⟨before, rest, groups⟩ := s
  cases rest with
  | nil => cases h
  | cons d rest =>
    cases h
    exact ⟨rfl, rfl, rfl⟩

theorem exists_step {s : Spot} {c : Char} {r : List Char} (h : s.rest = c :: r) :
    ∃ s', s.step = some (c, s') := by
  rw [Spot.step, h]
  exact ⟨_, rfl⟩

/-! ### Repetitions -/

section

variable {L : Language Char} {least : Nat} {most : Option Nat} {done : Nat} {u v : List Char}

theorem nil_mem_more (hleast : least ≤ done) (hmost : ∀ m, most = some m → done ≤ m) :
    [] ∈ more L least most done :=
  ⟨0, hleast, hmost, by simp⟩

theorem append_mem_more (hu : u ∈ L) (hv : v ∈ more L least most (done + 1)) :
    u ++ v ∈ more L least most done := by
  obtain ⟨k, hleast, hmost, hv⟩ := hv
  refine ⟨k + 1, by omega, fun m hm => ?_, ?_⟩
  · have := hmost m hm
    omega
  · rw [pow_succ']
    exact Language.append_mem_mul hu hv

/-- Either nothing more is asked for, or there is one more round. -/
theorem cases_more {w : List Char} (h : w ∈ more L least most done) :
    (w = [] ∧ least ≤ done) ∨
      ∃ u v, w = u ++ v ∧ u ∈ L ∧ v ∈ more L least most (done + 1) ∧
        ∀ m, most = some m → done < m := by
  obtain ⟨k, hleast, hmost, hw⟩ := h
  cases k with
  | zero => exact Or.inl ⟨by simpa using hw, hleast⟩
  | succ k =>
    rw [pow_succ', Language.mem_mul] at hw
    obtain ⟨u, hu, v, hv, rfl⟩ := hw
    refine Or.inr ⟨u, v, rfl, hu, ⟨k, by omega, fun m hm => ?_, hv⟩, fun m hm => ?_⟩
    · have := hmost m hm
      omega
    · have := hmost m hm
      omega

/-- Any number of rounds reads texts one after the other. -/
theorem mem_more_any {w : List Char} :
    w ∈ more L 0 none 0 ↔ ∃ ws : List (List Char), w = ws.flatten ∧ ∀ v ∈ ws, v ∈ L := by
  constructor
  · rintro ⟨k, -, -, hw⟩
    obtain ⟨ws, hflatten, -, hws⟩ := Language.mem_pow.1 hw
    exact ⟨ws, hflatten, hws⟩
  · rintro ⟨ws, hflatten, hws⟩
    exact ⟨ws.length, Nat.zero_le _, by simp, Language.mem_pow.2 ⟨ws, hflatten, rfl, hws⟩⟩

/-- Repeated characters are texts of such characters. -/
theorem mem_more_characters {f : Char → Bool} {least : Nat} {w : List Char} :
    w ∈ more {w | ∃ c, w = [c] ∧ f c = true} least none 0 ↔
      least ≤ w.length ∧ ∀ c ∈ w, f c = true := by
  constructor
  · rintro ⟨k, hleast, -, hw⟩
    obtain ⟨ws, rfl, rfl, hws⟩ := Language.mem_pow.1 hw
    refine ⟨?_, fun c hc => ?_⟩
    · have hlength : ∀ v ∈ ws, v.length = 1 := fun v hv => by
        obtain ⟨c, rfl, -⟩ := hws v hv
        rfl
      have hsum : (ws.map List.length).sum = ws.length := by
        rw [List.map_congr_left (g := fun _ => 1) hlength, List.map_const', List.sum_replicate_nat,
          Nat.mul_one]
      rw [List.length_flatten, hsum]
      omega
    · obtain ⟨v, hv, hc⟩ := List.mem_flatten.1 hc
      obtain ⟨d, rfl, hd⟩ := hws v hv
      rwa [List.mem_singleton.1 hc]
  · rintro ⟨hleast, hw⟩
    refine ⟨w.length, by omega, by simp, Language.mem_pow.2 ⟨w.map fun c => [c], ?_, by simp, ?_⟩⟩
    · rw [← List.flatMap_def, List.flatMap_singleton']
    · intro v hv
      obtain ⟨c, hc, rfl⟩ := List.mem_map.1 hv
      exact ⟨c, rfl, hw c hc⟩

/-- A text of a set lies at a place, and one can go on behind it. -/
def Finds (L : Language Char) (s : Spot) (next : Next) (r : Spot) : Prop :=
  ∃ w ∈ L, ∃ s', s.Behind w s' ∧ next s' = some r

/-- What a matcher finds are texts of a set. -/
def Sound (round : Spot → Next → Option Spot) (L : Language Char) : Prop :=
  ∀ s next r, round s next = some r → Finds L s next r

/-- A matcher finds something if a text of a set lies at a place and one can go on behind it. -/
def Complete (round : Spot → Next → Option Spot) (L : Language Char) : Prop :=
  ∀ s next, ∀ w ∈ L, (∃ r, s.rest = w ++ r) → (∀ s', s.Behind w s' → (next s').isSome = true) →
    (round s next).isSome = true

variable {round : Spot → Next → Option Spot} {mode : Mode}

/-- What a repetition finds are as many texts as are asked for. -/
theorem finds_of_rounds (hsound : Sound round L) (hempty : [] ∉ L)
    (hmost : ∀ m, most = some m → least ≤ m) {next : Next} {r : Spot} :
    ∀ {fuel done : Nat} {last : Option Nat} {s : Spot}, s.rest.length < fuel →
      (∀ m, most = some m → done ≤ m) →
      rounds round least most mode fuel done last s next = some r →
      Finds (more L least most done) s next r
  | 0, _, _, _, hfuel, _, _ => absurd hfuel (Nat.not_lt_zero _)
  | fuel + 1, done, last, s, hfuel, hdone, h => by
    have hagain (hlt : ∀ m, most = some m → done < m)
        (h : round s (fun s' => rounds round least most mode fuel (done + 1) (some s.index) s' next)
          = some r) : Finds (more L least most done) s next r := by
      obtain ⟨u, hu, t, hut, h⟩ := hsound _ _ _ h
      have hne : u.length ≠ 0 := fun hnil => hempty (List.length_eq_zero_iff.1 hnil ▸ hu)
      have hrest : t.rest.length < fuel := by
        have := hut.length_rest
        omega
      obtain ⟨v, hv, s', hvs, hs'⟩ := finds_of_rounds hsound hempty hmost hrest hlt h
      exact ⟨u ++ v, append_mem_more hu hv, s', hut.trans hvs, hs'⟩
    have hstop (hle : least ≤ done) (h : next s = some r) : Finds (more L least most done) s next r :=
      ⟨[], nil_mem_more hle hdone, s, .refl s, h⟩
    have hmay : (most.all (fun m => done < m) && last != some s.index) = true →
        ∀ m, most = some m → done < m := by
      rintro hmay m rfl
      simp only [Option.all_some, Bool.and_eq_true, decide_eq_true_eq] at hmay
      exact hmay.1
    have hmaybe (h : (if most.all (fun m => done < m) && last != some s.index then
        round s (fun s' => rounds round least most mode fuel (done + 1) (some s.index) s' next)
        else none) = some r) : Finds (more L least most done) s next r := by
      split_ifs at h with hgo
      exact hagain (hmay hgo) h
    rw [rounds] at h
    by_cases hleast : done < least
    · rw [if_pos hleast] at h
      exact hagain (fun m hm => Nat.lt_of_lt_of_le hleast (hmost m hm)) h
    · rw [if_neg hleast] at h
      have hle := Nat.le_of_not_lt hleast
      dsimp only at h
      split at h
      · split at h
        · rename_i hnext
          exact hstop hle (hnext.trans h)
        · exact hmaybe h
      · split at h
        · rename_i hmaybe'
          exact hmaybe (hmaybe'.trans h)
        · exact hstop hle h

/-- A repetition finds something if there are as many texts as are asked for. -/
theorem isSome_rounds (hcomplete : Complete round L) (hempty : [] ∉ L) {next : Next} {r : List Char} :
    ∀ {fuel done : Nat} {last : Option Nat} {s : Spot} {w : List Char}, s.rest.length < fuel →
      last ≠ some s.index → w ∈ more L least most done → s.rest = w ++ r →
      (∀ s', s.Behind w s' → (next s').isSome = true) →
      (rounds round least most mode fuel done last s next).isSome = true
  | 0, _, _, _, _, hfuel, _, _, _, _ => absurd hfuel (Nat.not_lt_zero _)
  | fuel + 1, done, last, s, w, hfuel, hlast, hw, hr, hnext => by
    rcases cases_more hw with ⟨rfl, hle⟩ | ⟨u, v, rfl, hu, hv, hlt⟩
    · have hstop : (next s).isSome = true := hnext s (.refl s)
      rw [rounds, if_neg (Nat.not_lt.2 hle)]
      dsimp only
      split
      · split
        · rfl
        · rename_i hnone
          simp [hnone] at hstop
      · split
        · rfl
        · exact hstop
    · have hne : u.length ≠ 0 := fun hnil => hempty (List.length_eq_zero_iff.1 hnil ▸ hu)
      have hagain : (round s fun s' =>
          rounds round least most mode fuel (done + 1) (some s.index) s' next).isSome = true := by
        refine hcomplete s _ u hu ⟨v ++ r, by rw [hr, List.append_assoc]⟩ fun t hut => ?_
        have hindex := hut.index_eq
        have hlength := hut.length_rest
        refine isSome_rounds hcomplete hempty (by omega) (fun h => ?_) hv
          (hut.rest_eq (by rw [hr, List.append_assoc])) fun s' hvs => hnext s' (hut.trans hvs)
        have := Option.some.inj h
        omega
      have hmay : (most.all (fun m => done < m) && last != some s.index) = true := by
        rw [Bool.and_eq_true, bne_iff_ne, Option.all_eq_true]
        exact ⟨fun m hm => decide_eq_true (hlt m hm), hlast⟩
      rw [rounds]
      split_ifs with hleast
      · exact hagain
      · dsimp only
        rw [if_pos hmay]
        split
        · split
          · rfl
          · exact hagain
        · split
          · rfl
          · rename_i hnone
            simp [hnone] at hagain

end

/-! ### Expressions -/

theorem sound_step {f : Char → Bool} : Sound (fun s next => match s.step with
    | some (c, s) => if f c then next s else none
    | none => none) {w | ∃ c, w = [c] ∧ f c = true} := by
  intro s next r h
  dsimp only at h
  split at h
  · rename_i c t hstep
    split_ifs at h with hc
    exact ⟨[c], ⟨c, rfl, hc⟩, t, behind_of_step hstep, h⟩
  · cases h

theorem complete_step {f : Char → Bool} : Complete (fun s next => match s.step with
    | some (c, s) => if f c then next s else none
    | none => none) {w | ∃ c, w = [c] ∧ f c = true} := by
  rintro s next _ ⟨c, rfl, hc⟩ ⟨r, hr⟩ hnext
  obtain ⟨t, ht⟩ := exists_step hr
  dsimp only
  rw [ht]
  simp only [hc, if_true]
  exact hnext t (behind_of_step ht)

theorem sound_seq : ∀ {ps : List Pattern}, (∀ p ∈ ps, Sound (run p) p.language) →
    Sound (runSeq ps) (languageSeq ps)
  | [], _ => fun s next r h => ⟨[], rfl, s, .refl s, h⟩
  | p :: ps, hps => fun s next r h => by
    obtain ⟨u, hu, t, hut, h⟩ := hps p List.mem_cons_self s _ r h
    obtain ⟨v, hv, s', hvs, hs'⟩ := sound_seq (fun q hq => hps q (List.mem_cons_of_mem p hq)) t next r h
    exact ⟨u ++ v, Language.append_mem_mul hu hv, s', hut.trans hvs, hs'⟩

theorem complete_seq : ∀ {ps : List Pattern}, (∀ p ∈ ps, Complete (run p) p.language) →
    Complete (runSeq ps) (languageSeq ps)
  | [], _ => fun s next w hw _ hnext => by
    obtain rfl : w = [] := hw
    exact hnext s (.refl s)
  | p :: ps, hps => fun s next w hw ⟨r, hr⟩ hnext => by
    obtain ⟨u, hu, v, hv, rfl⟩ := Language.mem_mul.1 hw
    rw [List.append_assoc] at hr
    refine hps p List.mem_cons_self s _ u hu ⟨v ++ r, hr⟩ fun t hut => ?_
    exact complete_seq (fun q hq => hps q (List.mem_cons_of_mem p hq)) t next v hv
      ⟨r, hut.rest_eq hr⟩ fun s' hvs => hnext s' (hut.trans hvs)

theorem sound_alt : ∀ {ps : List Pattern}, (∀ p ∈ ps, Sound (run p) p.language) →
    Sound (runAlt ps) (languageAlt ps)
  | [], _ => fun s next r h => by cases h
  | p :: ps, hps => fun s next r h => by
    rw [runAlt] at h
    split at h
    · rename_i hrun
      obtain ⟨w, hw, s', hws, hs'⟩ := hps p List.mem_cons_self s next _ hrun
      exact ⟨w, Or.inl hw, s', hws, hs'.trans h⟩
    · obtain ⟨w, hw, hs'⟩ := sound_alt (fun q hq => hps q (List.mem_cons_of_mem p hq)) s next r h
      exact ⟨w, Or.inr hw, hs'⟩

theorem complete_alt : ∀ {ps : List Pattern}, (∀ p ∈ ps, Complete (run p) p.language) →
    Complete (runAlt ps) (languageAlt ps)
  | [], _ => fun s next w hw _ _ => absurd hw (Set.notMem_empty w)
  | p :: ps, hps => fun s next w hw hr hnext => by
    rw [runAlt]
    split
    · rfl
    · rename_i hnone
      rcases hw with hw | hw
      · have hrun := hps p List.mem_cons_self s next w hw hr hnext
        simp [hnone] at hrun
      · exact complete_alt (fun q hq => hps q (List.mem_cons_of_mem p hq)) s next w hw hr hnext

theorem run_loop {least : Nat} {most : Option Nat} {mode : Mode} {p : Pattern} {s : Spot}
    {next : Next} (hmode : mode ≠ .firm) : run (.loop least most mode p) s next =
      rounds (fun s k => run p s k) least most mode (roundBound least s) 0 none s next := by
  cases mode with
  | firm => exact absurd rfl hmode
  | greedy | lazy => rfl

/-- **What the matcher finds** is a text of the expression with something behind it. -/
theorem Regular.finds {p : Pattern} (h : Regular p) : Sound (run p) p.language := by
  induction h with
  | one => exact sound_step
  | any => exact sound_step
  | seq _ ih => exact sound_seq ih
  | alt _ ih => exact sound_alt ih
  | group _ ih => exact ih
  | @loop least most mode p _ hmode hmost hempty ih =>
    intro s next r h
    rw [run_loop hmode] at h
    exact finds_of_rounds ih hempty hmost (by unfold roundBound; omega) (by omega) h

/-- **The matcher finds something** wherever a text of the expression lies with something behind it. -/
theorem Regular.isSome_run {p : Pattern} (h : Regular p) : Complete (run p) p.language := by
  induction h with
  | one => exact complete_step
  | any => exact complete_step
  | seq _ ih => exact complete_seq ih
  | alt _ ih => exact complete_alt ih
  | group _ ih => exact ih
  | @loop least most mode p _ hmode hmost hempty ih =>
    rintro s next w hw ⟨r, hr⟩ hnext
    rw [run_loop hmode]
    exact isSome_rounds ih hempty (by unfold roundBound; omega) (by simp) hw hr hnext

/-- What is found by an expression whose text is kept is found with that text. -/
theorem Regular.finds_group {p : Pattern} (h : Regular p) {n : Nat} {s r : Spot} {next : Next}
    (hr : run (.group (some n) p) s next = some r) : ∃ w ∈ p.language, ∃ t, s.Behind w t ∧
      next { t with groups := (n, w) :: t.groups } = some r := by
  obtain ⟨w, hw, t, hwt, hnext⟩ := h.finds s _ r hr
  dsimp only at hnext
  rw [hwt.read_eq] at hnext
  exact ⟨w, hw, t, hwt, hnext⟩

theorem Regular.isSome_run_group {p : Pattern} (h : Regular p) {n : Nat} {s : Spot} {next : Next}
    {w : List Char} (hw : w ∈ p.language) (hr : ∃ r, s.rest = w ++ r)
    (hnext : ∀ t, s.Behind w t → (next { t with groups := (n, w) :: t.groups }).isSome = true) :
    (run (.group (some n) p) s next).isSome = true := by
  refine h.isSome_run s _ w hw hr fun t hwt => ?_
  dsimp only
  rw [hwt.read_eq]
  exact hnext t hwt

/-- Something is found at a place exactly if a text of the expression begins there. -/
theorem Regular.isSome_run_iff {p : Pattern} (h : Regular p) {s : Spot} :
    (run p s some).isSome = true ↔ ∃ w ∈ p.language, w <+: s.rest := by
  constructor
  · intro hsome
    obtain ⟨r, hr⟩ := Option.isSome_iff_exists.1 hsome
    obtain ⟨w, hw, s', hws, -⟩ := h.finds s some r hr
    exact ⟨w, hw, s'.rest, hws.1.symm⟩
  · rintro ⟨w, hw, r, hr⟩
    exact h.isSome_run s some w hw ⟨r, hr.symm⟩ fun s' _ => rfl

theorem Regular.searchFrom_iff {p : Pattern} (h : Regular p) {before cs : List Char} :
    searchFrom p before cs = true ↔ ∃ w ∈ p.language, w <:+: cs := by
  induction cs generalizing before with
  | nil =>
    rw [searchFrom, h.isSome_run_iff]
    simp
  | cons c r ih =>
    rw [searchFrom, Bool.or_eq_true, h.isSome_run_iff, ih]
    simp only [List.infix_cons_iff, and_or_left, exists_or]

/-- **What is searched for** is found exactly if a text of the expression is somewhere. -/
theorem Regular.search_iff {p : Pattern} (h : Regular p) {s : String} :
    p.search s = true ↔ ∃ w ∈ p.language, w <:+: s.toList := h.searchFrom_iff

/-! ### Greedy repetitions -/

section

variable {negated ignoreCase : Bool} {cs : List Class} {least : Nat} {r : List Char}
  {g : List (Nat × List Char)} {next : Next} {x : Spot}

theorem rounds_greedy (hr : ∀ c ∈ r.head?, inSet negated ignoreCase cs c = false) :
    ∀ {w b : List Char} {fuel done : Nat} {last : Option Nat},
      (∀ c ∈ w, inSet negated ignoreCase cs c = true) → (w ++ r).length < fuel →
      least ≤ done + w.length → last ≠ some b.length → next ⟨w.reverse ++ b, r, g⟩ = some x →
      rounds (fun s k => run (.one negated ignoreCase cs) s k) least none .greedy fuel done last
        ⟨b, w ++ r, g⟩ next = some x
  | [], b, fuel + 1, done, last, _, _, hleast, _, hnext => by
    have hstuck : ∀ k, run (.one negated ignoreCase cs) ⟨b, r, g⟩ k = none := by
      intro k
      cases r with
      | nil => rfl
      | cons c r =>
        have hc := hr c rfl
        simp [run, Spot.step, hc]
    rw [rounds, if_neg (Nat.not_lt.2 (by simpa using hleast))]
    simp only [List.nil_append, hstuck, ite_self]
    exact hnext
  | c :: w, b, fuel + 1, done, last, hw, hfuel, hleast, hlast, hnext => by
    have hc := hw c List.mem_cons_self
    have hagain : run (.one negated ignoreCase cs) ⟨b, c :: w ++ r, g⟩ (fun s' =>
        rounds (fun s k => run (.one negated ignoreCase cs) s k) least none .greedy fuel (done + 1)
          (some b.length) s' next) = some x := by
      simp only [run, Spot.step, List.cons_append, hc, if_true]
      refine rounds_greedy hr (fun d hd => hw d (List.mem_cons_of_mem c hd)) ?_ ?_ ?_ ?_
      · simpa using hfuel
      · rw [List.length_cons] at hleast
        omega
      · simp
      · simpa using hnext
    rw [rounds]
    split_ifs with hdone
    · exact hagain
    · have hmay : (last != some (Spot.index ⟨b, c :: w ++ r, g⟩)) = true := bne_iff_ne.2 hlast
      simp only [Option.all_none, Bool.true_and, hmay, if_true]
      dsimp only [Spot.index]
      rw [hagain]

/-- **Greedy repetitions of characters** take all there are, if one can go on from there. -/
theorem run_greedy {w b : List Char} (hr : ∀ c ∈ r.head?, inSet negated ignoreCase cs c = false)
    (hw : ∀ c ∈ w, inSet negated ignoreCase cs c = true) (hleast : least ≤ w.length)
    (hnext : next ⟨w.reverse ++ b, r, g⟩ = some x) :
    run (.loop least none .greedy (.one negated ignoreCase cs)) ⟨b, w ++ r, g⟩ next = some x := by
  have hbound : (w ++ r).length < roundBound least ⟨b, w ++ r, g⟩ := by
    show _ < least + (w ++ r).length + 2
    omega
  rw [run_loop (by simp)]
  exact rounds_greedy hr hw hbound (by omega) (by simp) hnext

/-- What they take is kept by a group around them. -/
theorem run_group_greedy {w b : List Char} {n : Nat}
    (hr : ∀ c ∈ r.head?, inSet negated ignoreCase cs c = false)
    (hw : ∀ c ∈ w, inSet negated ignoreCase cs c = true) (hleast : least ≤ w.length)
    (hnext : next ⟨w.reverse ++ b, r, (n, w) :: g⟩ = some x) :
    run (.group (some n) (.loop least none .greedy (.one negated ignoreCase cs))) ⟨b, w ++ r, g⟩ next =
      some x := by
  have hbehind : Spot.Behind ⟨b, w ++ r, g⟩ w ⟨w.reverse ++ b, r, g⟩ := ⟨rfl, rfl, rfl⟩
  refine run_greedy hr hw hleast ?_
  dsimp only
  rw [hbehind.read_eq]
  exact hnext

end

end SlidePress.Pattern
