import SlidePress.Layout.Deck
import SlidePress.Proofs.Layout.Agreement

/-! # When slides can be laid out

A slide that is not raw has a draft, and its draft leads to calls. It can be laid out exactly if
there is a draft and every one of these calls is answered (`ending_layOut_eq_ok`), and then its body
is the draft with the answers in it. The same holds of a deck, however many slides are laid out at a
time and whatever their paces (`ending_layOutAt_eq_ok`): nothing else about those who answer
matters. -/

namespace SlidePress

open Attempt (bind_eq_ok exists_ok_of_map mapM_eq_ok mapM_eq_ok_iff_map)

/-! ### Tasks and rounds -/

/-- Tasks are gathered to results exactly if all of them return. -/
theorem gather_eq_ok_iff {ε α : Type} {ts : List (Task ε α)} {as : List α} :
    gather ts = .ok as ↔ ts.map Task.ending = as.map .ok := by
  refine ⟨fun h => ?_, gather_of_forall_ok ts as⟩
  unfold gather at h
  split at h
  · split at h <;> cases h
  · exact mapM_eq_ok_iff_map.1 h

theorem Course.ending_round_eq_ok {pace : Nat → Nat}
    {requests : List (Call × Ending SlideError String)} {answers : List String} :
    (Course.round pace requests).ending = .ok answers ↔
      requests.map Prod.snd = answers.map .ok := by
  rw [Course.ending_round_eq_gather, gather_eq_ok_iff, Course.map_ending_tasks]

namespace Press

variable {press : Press}

/-! ### One slide -/

/-- Whether somebody answers a call. -/
def Answers (press : Press) (c : Call) : Prop := ∃ a, press.answer c = .ok a

/-- What a call is answered with; nothing where there is no answer. -/
def answerText (press : Press) (c : Call) : String :=
  match press.answer c with
  | .ok a => a
  | .error _ => ""

theorem answer_eq_ok {c : Call} (h : press.Answers c) : press.answer c = .ok (press.answerText c) := by
  obtain ⟨a, ha⟩ := h
  rw [ha, answerText, ha]

theorem map_answer_eq_ok {calls : List Call} {answers : List String} :
    calls.map press.answer = answers.map .ok ↔
      (∀ c ∈ calls, press.Answers c) ∧ answers = calls.map press.answerText := by
  constructor
  · intro h
    induction calls generalizing answers with
    | nil =>
      obtain rfl : answers = [] := List.map_eq_nil_iff.1 h.symm
      exact ⟨fun c hc => absurd hc List.not_mem_nil, rfl⟩
    | cons c calls ih =>
      obtain ⟨a, answers, rfl⟩ : ∃ a as, answers = a :: as :=
        List.exists_cons_of_ne_nil (by rintro rfl; cases h)
      rw [List.map_cons, List.map_cons, List.cons.injEq] at h
      obtain ⟨hcalls, rfl⟩ := ih h.2
      refine ⟨List.forall_mem_cons.2 ⟨⟨a, h.1⟩, hcalls⟩, ?_⟩
      rw [List.map_cons, answerText, h.1]
  · rintro ⟨h, rfl⟩
    rw [List.map_map]
    exact List.map_congr_left fun c hc => answer_eq_ok (h c hc)

/-- A draft with what `print` gives for its requests in it. -/
def filledWith (print : Call → String) (draft : String) (r : Requests) : String :=
  Requests.fill ((r.calls .icon).map print) ((r.calls .cite).map print)
    ((r.calls .expand).map print) draft

/-- All calls that requests lead to. -/
def callsFor (r : Requests) : List Call := r.calls .icon ++ (r.calls .cite ++ r.calls .expand)

theorem ending_resolve_eq_ok {pace : Pace} {r : Requests} {draft text : String} :
    (r.resolve press pace draft).ending = .ok text ↔
      (∀ c ∈ callsFor r, press.Answers c) ∧ text = filledWith press.answerText draft r := by
  have hround (k : RequestKind) (answers : List String) :
      (Course.round (pace k) ((r.calls k).map fun c => (c, press.answer c))).ending = .ok answers ↔
        (∀ c ∈ r.calls k, press.Answers c) ∧ answers = (r.calls k).map press.answerText := by
    rw [Course.ending_round_eq_ok, List.map_map]
    exact map_answer_eq_ok
  simp only [Requests.resolve, Requests.resolveWith, Course.ending_bind, Course.ending_pure,
    bind_eq_ok, hround, callsFor, List.forall_mem_append, filledWith]
  constructor
  · rintro ⟨icons, ⟨hi, rfl⟩, cites, ⟨hc, rfl⟩, expands, ⟨he, rfl⟩, h⟩
    exact ⟨⟨hi, hc, he⟩, (Except.ok.inj h).symm⟩
  · rintro ⟨⟨hi, hc, he⟩, rfl⟩
    exact ⟨_, ⟨hi, rfl⟩, _, ⟨hc, rfl⟩, _, ⟨he, rfl⟩, rfl⟩

/-- Whether a slide at its place is raw or has a draft. -/
def Drafted (press : Press) (x : SlidePlace × Slide) : Prop :=
  x.2.isRaw = true ∨ ∃ p, press.draft x.1 x.2 = .ok p

/-- The calls that a slide at its place leads to. -/
def callsOf (press : Press) (x : SlidePlace × Slide) : List Call :=
  if x.2.isRaw then []
  else
    match press.draft x.1 x.2 with
    | .ok (_, r) => callsFor r
    | .error _ => []

/-- The body of a slide at its place, with what `print` gives for its requests in it. -/
def bodyWith (press : Press) (print : Call → String) (x : SlidePlace × Slide) : String :=
  if x.2.isRaw then x.2.raw.getD ""
  else
    match press.draft x.1 x.2 with
    | .ok (draft, r) => finished x.2.cssClass (filledWith print draft r)
    | .error _ => ""

/-- A slide that is not raw ends as the resolution of its draft does. -/
theorem ending_layOut_of_draft {pace : Pace} {place : SlidePlace} {s : Slide} {draft : String}
    {r : Requests} (hraw : ¬ s.isRaw = true) (hdraft : press.draft place s = .ok (draft, r)) :
    (press.layOut pace place s).ending =
      (r.resolve press pace draft).ending >>= fun text => .ok (finished s.cssClass text) := by
  unfold layOut
  rw [if_neg hraw, hdraft, Course.ending_bind]
  show Course.ending _ = _
  rw [Course.ending_bind]
  rfl

/-- A slide that is not raw and has no draft does not end in a body. -/
theorem ending_layOut_of_error {pace : Pace} {place : SlidePlace} {s : Slide} {e : SlideError}
    (hraw : ¬ s.isRaw = true) (hdraft : press.draft place s = .error e) :
    (press.layOut pace place s).ending = .error (.failed e) := by
  unfold layOut
  rw [if_neg hraw, hdraft, Course.ending_bind]
  rfl

/-- **A slide can be laid out** exactly if it has a draft and its calls are answered. -/
theorem ending_layOut_eq_ok {pace : Pace} {x : SlidePlace × Slide} {body : String} :
    (press.layOut pace x.1 x.2).ending = .ok body ↔
      (press.Drafted x ∧ ∀ c ∈ press.callsOf x, press.Answers c) ∧
        body = press.bodyWith press.answerText x := by
  unfold Drafted callsOf bodyWith
  by_cases hraw : x.2.isRaw = true
  · rw [layOut_of_isRaw press pace x.1 x.2 hraw]
    simp only [hraw, if_true, true_or, List.not_mem_nil, false_implies, implies_true, true_and]
    exact ⟨fun h => (Except.ok.inj h).symm, fun h => h ▸ rfl⟩
  simp only [hraw, Bool.false_eq_true, if_false, false_or]
  cases hdraft : press.draft x.1 x.2 with
  | error e =>
    rw [ending_layOut_of_error hraw hdraft]
    refine iff_of_false (fun h => ?_) fun h => ?_
    · cases h
    · obtain ⟨p, hp⟩ := h.1.1
      cases hp
  | ok p =>
    obtain ⟨draft, r⟩ := p
    rw [ending_layOut_of_draft hraw hdraft, bind_eq_ok]
    simp only [ending_resolve_eq_ok]
    constructor
    · rintro ⟨text, ⟨hcalls, rfl⟩, h⟩
      exact ⟨⟨⟨_, rfl⟩, hcalls⟩, (Except.ok.inj h).symm⟩
    · rintro ⟨⟨-, hcalls⟩, rfl⟩
      exact ⟨_, ⟨hcalls, rfl⟩, rfl⟩

/-! ### A deck -/

/-- Whatever a task returns, its course does. -/
theorem map_ending_of_taskFrom :
    ∀ {starts : List (Option Nat)} {cs : List (Course String)} {bodies : List String},
      starts.length = cs.length →
        (List.zipWith taskFrom starts cs).map Task.ending = bodies.map .ok →
          cs.map Course.ending = bodies.map .ok
  | [], [], _, _, h => h
  | [], _ :: _, _, hl, _ => by cases hl
  | _ :: _, [], _, hl, _ => by cases hl
  | start :: starts, c :: cs, [], _, h => by cases h
  | start :: starts, c :: cs, body :: bodies, hl, h => by
    rw [List.zipWith_cons_cons, List.map_cons, List.map_cons, List.cons.injEq] at h
    rw [List.map_cons, List.map_cons, map_ending_of_taskFrom (Nat.succ.inj hl) h.2]
    refine congrArg (· :: _) ?_
    cases start with
    | some time => exact h.1
    | none => cases h.1

/-- A task that begins returns what its course does. -/
theorem map_ending_taskFrom :
    ∀ {times : List Nat} {cs : List (Course String)}, times.length = cs.length →
      (List.zipWith taskFrom (times.map some) cs).map Task.ending = cs.map Course.ending
  | [], [], _ => rfl
  | [], _ :: _, hl => by cases hl
  | _ :: _, [], hl => by cases hl
  | _ :: _, c :: _, hl => congrArg (c.ending :: ·) (map_ending_taskFrom (Nat.succ.inj hl))

theorem ending_together_eq_ok {paces : Nat → Pace} {limit : Nat} {d : Deck} {bodies : List String}
    (hlimit : 1 ≤ limit) : (press.together paces limit d).ending = .ok bodies ↔
      (press.courses paces d).map Course.ending = bodies.map .ok := by
  unfold together
  dsimp only
  rw [gather_eq_ok_iff]
  constructor
  · exact map_ending_of_taskFrom (by simp)
  · intro h
    have hends : ∀ c ∈ press.courses paces d, c.ending.ends = true := fun c hc => by
      obtain ⟨b, hb⟩ := exists_ok_of_map h c hc
      rw [hb]
      rfl
    obtain ⟨times, hstarts, hlength⟩ := exists_starts limit hends hlimit
    rw [hstarts, map_ending_taskFrom hlength, h]

/-- **A deck can be laid out** exactly if each of its slides has a draft and their calls are
answered. -/
theorem ending_layOutAt_eq_ok {paces : Nat → Pace} {limit : Nat} {d : Deck} {bodies : List String} :
    (press.layOutAt paces limit d).ending = .ok bodies ↔
      (∀ x ∈ placed d, press.Drafted x ∧ ∀ c ∈ press.callsOf x, press.Answers c) ∧
        bodies = (placed d).map (press.bodyWith press.answerText) := by
  rw [← forall₂_iff_map]
  have hslides : List.Forall₂ (fun x body =>
        (press.layOut (paces x.1.index) x.1 x.2).ending = .ok body) (placed d) bodies ↔
      List.Forall₂ (fun x body => (press.Drafted x ∧ ∀ c ∈ press.callsOf x, press.Answers c) ∧
        body = press.bodyWith press.answerText x) (placed d) bodies := by
    simp only [ending_layOut_eq_ok]
  rw [← hslides]
  unfold layOutAt
  split_ifs with hlimit
  · rw [oneByOne, Course.ending_mapM, mapM_eq_ok]
  · rw [ending_together_eq_ok (by omega), ← List.forall₂_eq_eq_eq, courses, List.map_map,
      List.forall₂_map_left_iff, List.forall₂_map_right_iff]
    rfl

end Press

end SlidePress
