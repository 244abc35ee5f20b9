import SlidePress.Proofs.Layout.Calls
import SlidePress.Proofs.Layout.Journal

/-! # The calls of a slide

What a slide has others do is written in the journal of its template, and nothing else is. A slide
that is raw, has no template, does not fit its template or whose template fails calls nobody.
Otherwise its calls are made in three rounds: those for icons, each as often as the journal has it
and in the same order, then those for citations and then those for texts to expand, where a round is
only begun if the one before was answered. A round that is not answered has made all its calls, and
its first failure is the one of the slide, of which no text is left (`Press.handles_layOut`).

All this is so where those who answer are in step: each ends, and no call of a round takes so much
longer than another that it would be cancelled for its failure. They may answer the same call in
different ways, so answers are given by the kind and the number of a request. -/

namespace SlidePress

/-! ### Rounds in step -/

/-- Of some endings one is a failure, and all before it have a result. -/
def FailsFirst {ε α : Type} (rs : List (Ending ε α)) (e : ε) : Prop :=
  ∃ before after, rs = before ++ .error (.failed e) :: after ∧ ∀ r ∈ before, ∃ a, r = .ok a

/-- Tasks that end, and of which none takes much longer than another, are gathered to their results
or fail with the first failure in their order. -/
theorem gather_inStep {ε α : Type} {ts : List (Task ε α)}
    (hends : ∀ t ∈ ts, t.ending.ends = true) (hcancelled : ∀ t ∈ ts, t.whenCancelled = none)
    (hsteps : ∀ t ∈ ts, ∀ u ∈ ts, t.steps ≤ u.steps + noticeSteps) :
    (∃ as, ts.map Task.ending = as.map .ok ∧ gather ts = .ok as) ∨
      ∃ e, FailsFirst (ts.map Task.ending) e ∧ gather ts = .error (.failed e) := by
  cases hfirst : firstFailure? ts with
  | none =>
    have hnone := (firstFailure?_eq_none_iff ts).1 hfirst
    obtain ⟨as, has⟩ := Attempt.exists_map_ok fun t ht => exists_of_ends (hends t ht) (hnone t ht)
    exact Or.inl ⟨as, has, gather_of_forall_ok ts as has⟩
  | some time =>
    obtain ⟨e, he, hg⟩ := exists_gather_eq_failed hfirst
    obtain ⟨u, hu, -, -, rfl⟩ := exists_firstFailure hfirst
    obtain ⟨before, t, after, rfl, ht, hbefore⟩ := List.findSome?_eq_some_iff.1 he
    have hending := (failure?_eq_some ht (hcancelled t (by simp))).2
    refine Or.inr ⟨e, ⟨before.map Task.ending, after.map Task.ending, by simp [hending], ?_⟩, hg⟩
    intro r hr
    obtain ⟨b, hb, rfl⟩ := List.mem_map.1 hr
    have hmem : b ∈ before ++ t :: after := List.mem_append_left _ hb
    -- whatever failed before it would have been noticed, too
    refine exists_of_ends (hends b hmem) (Bool.eq_false_of_not_eq_true fun hf => ?_)
    obtain ⟨e', he'⟩ := exists_of_fails hf
    have hdone : b.isDone (u.steps + noticeSteps) = true := by
      simp [Task.isDone, he', Ending.ends, hsteps b hmem u hu]
    have hnone := hbefore b hb
    rw [failure?_of_isDone hdone he'] at hnone
    cases hnone

/-- No request of a kind takes so much longer than another that it would be cancelled for it. -/
def Pace.InStep (pace : Pace) : Prop := ∀ kind i j, pace kind i ≤ pace kind j + noticeSteps

theorem Pace.even_inStep : Pace.even.InStep := fun _ _ _ => Nat.le_add_right 1 _

namespace Course

variable {α β : Type} {c : Course α}

/-- A round in step is answered or fails with its first failure. -/
theorem ending_round_inStep {pace : Pace} (hpace : pace.InStep) {kind : RequestKind}
    {requests : List (Call × Ending SlideError String)} (hends : ∀ r ∈ requests, r.2.ends = true) :
    (∃ texts, requests.map Prod.snd = texts.map .ok ∧
        (round (pace kind) requests).ending = .ok texts) ∨
      ∃ e, FailsFirst (requests.map Prod.snd) e ∧
        (round (pace kind) requests).ending = .error (.failed e) := by
  rw [ending_round_eq_gather, ← map_ending_tasks (pace kind) requests]
  refine gather_inStep (fun t ht => ?_) (fun t ht => ?_) fun t ht u hu => ?_
  · obtain ⟨i, hi, rfl⟩ := List.mem_mapIdx.1 ht
    exact hends _ (List.getElem_mem hi)
  · obtain ⟨i, hi, rfl⟩ := List.mem_mapIdx.1 ht
    rfl
  · obtain ⟨i, -, rfl⟩ := List.mem_mapIdx.1 ht
    obtain ⟨j, -, rfl⟩ := List.mem_mapIdx.1 hu
    exact hpace kind i j

theorem made_bind_of_error {h : Halt SlideError} (hc : c.ending = .error h) (f : α → Course β) :
    (c >>= f).made = c.made := by
  rw [made, calls_bind_of_error c f h hc, made]

theorem ending_bind_of_ok {a : α} (h : c.ending = .ok a) (f : α → Course β) :
    (c >>= f).ending = (f a).ending := by
  rw [ending_bind, h]
  rfl

theorem ending_bind_of_error {h : Halt SlideError} (hc : c.ending = .error h) (f : α → Course β) :
    (c >>= f).ending = .error h := by
  rw [ending_bind, hc]
  rfl

theorem made_bind_pure (c : Course α) (f : α → β) : (c >>= fun a => pure (f a)).made = c.made := by
  cases h : c.ending with
  | error e => exact made_bind_of_error h _
  | ok a =>
    rw [made_bind_of_ok h]
    exact List.append_nil _

theorem ending_bind_pure (c : Course α) (f : α → β) :
    (c >>= fun a => pure (f a)).ending = c.ending.map f := by
  rw [ending_bind]
  cases c.ending <;> rfl

/-- The calls of a course are in the order in which they are made. -/
def InOrder (c : Course α) : Prop := c.calls.Pairwise fun p q => p.1 ≤ q.1

theorem inOrder_done (a : α) : (done a).InOrder := List.Pairwise.nil

theorem inOrder_ofExcept (r : Except SlideError α) : (ofExcept r).InOrder := List.Pairwise.nil

theorem inOrder_round (pace : Nat → Nat) (requests : List (Call × Ending SlideError String)) :
    (round pace requests).InOrder := by
  unfold round
  split_ifs
  · exact inOrder_done []
  · exact List.pairwise_map.2 (List.pairwise_of_forall fun _ _ => Nat.le_refl 0)

theorem InOrder.bind (hc : c.InOrder) (hprompt : c.Prompt) {f : α → Course β}
    (hf : ∀ a, (f a).InOrder) : (c >>= f).InOrder := by
  show (andThen c f).InOrder
  cases h : c.ending with
  | error e =>
    rw [andThen_of_error h]
    exact hc
  | ok a =>
    rw [andThen_of_ok h]
    refine List.pairwise_append.2 ⟨hc, List.pairwise_map.2 ((hf a).imp fun hpq =>
      Nat.add_le_add_left hpq _), fun p hp q hq => ?_⟩
    obtain ⟨r, -, rfl⟩ := List.mem_map.1 hq
    exact (hprompt p hp).trans (Nat.le_add_right _ _)

end Course

/-! ### Three rounds -/

namespace Requests

/-- How requests are answered, by their kinds and numbers. -/
abbrev Answering := RequestKind → Nat → Call → Ending SlideError String

/-- How the calls of one kind in a journal are answered. -/
def answersTo (answers : Answering) (js : List Call) (kind : RequestKind) :
    List (Ending SlideError String) :=
  (ofKind kind js).mapIdx (answers kind)

/-- The calls of one kind in a journal, each with how it is answered. -/
def numbered (answers : Answering) (js : List Call) (kind : RequestKind) :
    List (Call × Ending SlideError String) :=
  (ofKind kind js).mapIdx fun i c => (c, answers kind i c)

@[simp] theorem map_fst_numbered (answers : Answering) (js : List Call) (kind : RequestKind) :
    (numbered answers js kind).map Prod.fst = ofKind kind js :=
  List.ext_getElem (by simp [numbered]) fun i _ _ => by simp [numbered]

@[simp] theorem map_snd_numbered (answers : Answering) (js : List Call) (kind : RequestKind) :
    (numbered answers js kind).map Prod.snd = answersTo answers js kind :=
  List.ext_getElem (by simp [numbered, answersTo]) fun i _ _ => by simp [numbered, answersTo]

/-- **The calls of a journal are made kind by kind**: which of them are made, and what comes of it
for a draft. Nothing of a kind is called for before all of the kind in front of it are answered. -/
inductive Serves (answers : Answering) (js : List Call) (draft : String) :
    List Call → Ending SlideError String → Prop
  | icons {e : SlideError} (hfails : FailsFirst (answersTo answers js .icon) e) :
    Serves answers js draft (ofKind .icon js) (.error (.failed e))
  | cites {icons : List String} {e : SlideError}
    (hicons : answersTo answers js .icon = icons.map .ok)
    (hfails : FailsFirst (answersTo answers js .cite) e) :
    Serves answers js draft (ofKind .icon js ++ ofKind .cite js) (.error (.failed e))
  | expands {icons cites : List String} {e : SlideError}
    (hicons : answersTo answers js .icon = icons.map .ok)
    (hcites : answersTo answers js .cite = cites.map .ok)
    (hfails : FailsFirst (answersTo answers js .expand) e) :
    Serves answers js draft (ofKind .icon js ++ (ofKind .cite js ++ ofKind .expand js))
      (.error (.failed e))
  | filled {icons cites expands : List String}
    (hicons : answersTo answers js .icon = icons.map .ok)
    (hcites : answersTo answers js .cite = cites.map .ok)
    (hexpands : answersTo answers js .expand = expands.map .ok) :
    Serves answers js draft (ofKind .icon js ++ (ofKind .cite js ++ ofKind .expand js))
      (.ok (fill icons cites expands draft))

variable {answers : Answering}

/-- One round of the calls of a journal. -/
theorem round_numbered {pace : Pace} (hpace : pace.InStep)
    (hends : ∀ kind i c, (answers kind i c).ends = true) (js : List Call) (kind : RequestKind) :
    (∃ texts, answersTo answers js kind = texts.map .ok ∧
        (Course.round (pace kind) (numbered answers js kind)).ending = .ok texts) ∨
      ∃ e, FailsFirst (answersTo answers js kind) e ∧
        (Course.round (pace kind) (numbered answers js kind)).ending = .error (.failed e) := by
  rw [← map_snd_numbered]
  refine Course.ending_round_inStep hpace fun r hr => ?_
  obtain ⟨i, hi, rfl⟩ := List.mem_mapIdx.1 hr
  exact hends _ _ _

theorem serves_resolveWith {pace : Pace} (hpace : pace.InStep)
    (hends : ∀ kind i c, (answers kind i c).ends = true) (js : List Call) (draft : String) :
    Serves answers js draft (resolveWith pace (numbered answers js) draft).made
      (resolveWith pace (numbered answers js) draft).ending := by
  unfold resolveWith
  rcases round_numbered hpace hends js .icon with ⟨icons, hicons, hi⟩ | ⟨e, hfails, hi⟩
  · rw [Course.made_bind_of_ok hi, Course.ending_bind_of_ok hi]
    rcases round_numbered hpace hends js .cite with ⟨cites, hcites, hc⟩ | ⟨e, hfails, hc⟩
    · rw [Course.made_bind_of_ok hc, Course.ending_bind_of_ok hc]
      rcases round_numbered hpace hends js .expand with ⟨expands, hexpands, hx⟩ | ⟨e, hfails, hx⟩
      · rw [Course.made_bind_pure, Course.ending_bind_pure, hx]
        simp only [Course.made_round, map_fst_numbered]
        exact .filled hicons hcites hexpands
      · rw [Course.made_bind_pure, Course.ending_bind_pure, hx]
        simp only [Course.made_round, map_fst_numbered]
        exact .expands hicons hcites hfails
    · rw [Course.made_bind_of_error hc, Course.ending_bind_of_error hc]
      simp only [Course.made_round, map_fst_numbered]
      exact .cites hicons hfails
  · rw [Course.made_bind_of_error hi, Course.ending_bind_of_error hi]
    simp only [Course.made_round, map_fst_numbered]
    exact .icons hfails

end Requests

/-! ### One slide -/

namespace Press

variable {press : Press} {answers : Requests.Answering} {place : SlidePlace} {s : Slide}

/-- A slide laid out where the requests of each kind are answered by their numbers. -/
def layOutWith (press : Press) (pace : Pace) (answers : Requests.Answering) (place : SlidePlace)
    (s : Slide) : Course String :=
  if s.isRaw then Course.done (s.raw.getD "")
  else do
    let (draft, requests) ← Course.ofExcept (press.draft place s)
    let asked (kind : RequestKind) := (requests.calls kind).mapIdx fun i c => (c, answers kind i c)
    return finished s.cssClass (← Requests.resolveWith pace asked draft)

/-- Those who answer every call alike, whenever it is made, answer by numbers in particular. -/
theorem layOut_eq_layOutWith (press : Press) (pace : Pace) (place : SlidePlace) (s : Slide) :
    press.layOut pace place s = press.layOutWith pace (fun _ _ => press.answer) place s := by
  have hmapIdx (cs : List Call) : (cs.mapIdx fun _ c => (c, press.answer c)) =
      cs.map fun c => (c, press.answer c) := List.ext_getElem (by simp) fun i _ _ => by simp
  unfold layOut layOutWith Requests.resolve
  simp only [hmapIdx]

/-- A slide that is not raw has a template, and its content fits. -/
structure Fits (press : Press) (s : Slide) (t : TemplateDefinition) : Prop where
  notRaw : s.isRaw = false
  template : press.templates.get? s.template = some t
  content : ∃ v, press.templates.validate s.template (.map s.content) = .ok v ∧ v.valid = true

/-- **What comes of a slide**: the calls that are made, in order, and how it ends. -/
inductive Handles (press : Press) (answers : Requests.Answering) (place : SlidePlace) (s : Slide) :
    List Call → Ending SlideError String → Prop
  | raw (h : s.isRaw = true) : Handles press answers place s [] (.ok (s.raw.getD ""))
  | unregistered (hraw : s.isRaw = false) (h : press.templates.get? s.template = none) :
    Handles press answers place s [] (.error (.failed (.noTemplate s.template place.index)))
  | unchecked {t : TemplateDefinition} {f : Fault} (hraw : s.isRaw = false)
    (ht : press.templates.get? s.template = some t)
    (h : press.templates.validate s.template (.map s.content) = .error f) :
    Handles press answers place s [] (.error (.failed (.fault f)))
  | rejected {t : TemplateDefinition} {v : Verdict} (hraw : s.isRaw = false)
    (ht : press.templates.get? s.template = some t)
    (hv : press.templates.validate s.template (.map s.content) = .ok v) (h : v.valid = false) :
    Handles press answers place s []
      (.error (.failed (.unfit s.template v.errors place.index)))
  | unprinted {t : TemplateDefinition} {e : SlideError} (hfits : press.Fits s t)
    (h : journalOf place s.content t.output = .error e) :
    Handles press answers place s [] (.error (.failed e))
  | printed {t : TemplateDefinition} {draft : String} {js calls : List Call}
    {ending : Ending SlideError String} (hfits : press.Fits s t)
    (h : journalOf place s.content t.output = .ok (draft, js))
    (hserves : Requests.Serves answers js draft calls ending) :
    Handles press answers place s calls (ending.map (finished s.cssClass))

theorem inOrder_layOutWith (pace : Pace) (answers : Requests.Answering) (place : SlidePlace)
    (s : Slide) : (press.layOutWith pace answers place s).InOrder := by
  unfold layOutWith
  split_ifs
  · exact Course.inOrder_done _
  · refine (Course.inOrder_ofExcept _).bind (Course.prompt_ofExcept _) fun p => ?_
    refine Course.InOrder.bind ?_ (Requests.prompt_resolveWith _ _ _) fun _ =>
      Course.inOrder_done _
    exact (Course.inOrder_round _ _).bind (Course.prompt_round _ _) fun _ =>
      (Course.inOrder_round _ _).bind (Course.prompt_round _ _) fun _ =>
        (Course.inOrder_round _ _).bind (Course.prompt_round _ _) fun _ => Course.inOrder_done _

theorem layOutWith_of_error {pace : Pace} {e : SlideError} (hraw : s.isRaw = false)
    (hdraft : press.draft place s = .error e) :
    press.layOutWith pace answers place s = ⟨[], 0, .error (.failed e)⟩ := by
  unfold layOutWith
  rw [if_neg (by simp [hraw]), hdraft]
  rfl

theorem layOutWith_of_ok {pace : Pace} {draft : String} {js : List Call} (hraw : s.isRaw = false)
    (hdraft : press.draft place s = .ok (draft, Requests.ofJournal js)) :
    press.layOutWith pace answers place s =
      Requests.resolveWith pace (Requests.numbered answers js) draft >>= fun text =>
        pure (finished s.cssClass text) := by
  have hasked : (fun kind => ((Requests.ofJournal js).calls kind).mapIdx fun i c =>
      (c, answers kind i c)) = Requests.numbered answers js := funext fun kind => by
    rw [Requests.calls_ofJournal]
    rfl
  unfold layOutWith
  rw [if_neg (by simp [hraw]), hdraft, ← hasked]
  exact Course.done_andThen (draft, Requests.ofJournal js) _

theorem draft_of_checked {t : TemplateDefinition} {v : Verdict}
    (ht : press.templates.get? s.template = some t)
    (hv : press.templates.validate s.template (.map s.content) = .ok v) :
    press.draft place s = if v.valid then run place s.content t.output
      else .error (.unfit s.template v.errors place.index) := by
  unfold draft
  rw [ht]
  dsimp only
  rw [hv]

/-- The draft of a slide that fits, by the journal of its template. -/
theorem Fits.draft_eq {t : TemplateDefinition} (h : press.Fits s t) :
    press.draft place s = (journalOf place s.content t.output).map fun p =>
      (p.1, Requests.ofJournal p.2) := by
  obtain ⟨v, hv, hvalid⟩ := h.content
  rw [draft_of_checked h.template hv, if_pos hvalid, run_eq_journal]

theorem Fits.handles {pace : Pace} (hpace : pace.InStep)
    (hends : ∀ kind i c, (answers kind i c).ends = true) {t : TemplateDefinition}
    (h : press.Fits s t) :
    press.Handles answers place s (press.layOutWith pace answers place s).made
      (press.layOutWith pace answers place s).ending := by
  cases hj : journalOf place s.content t.output with
  | error e =>
    rw [layOutWith_of_error h.notRaw (by rw [h.draft_eq, hj]; rfl)]
    exact .unprinted h hj
  | ok p =>
    obtain ⟨draft, js⟩ := p
    rw [layOutWith_of_ok h.notRaw (by rw [h.draft_eq, hj]; rfl)]
    rw [Course.made_bind_pure, Course.ending_bind_pure]
    exact .printed h hj (Requests.serves_resolveWith hpace hends js draft)

/-- **The calls of a slide are those of its journal.** Whatever the slide, the templates and the
place are, and however requests are answered as long as all answers come in step: the calls that are
made are in order those of the journal kind by kind, up to the first kind that is not answered, and
there are none if the template does not print; and the slide ends with its text or with the first
failure of that kind. -/
theorem handles_layOut (press : Press) {pace : Pace} (hpace : pace.InStep) (place : SlidePlace)
    (s : Slide) :
    press.layOut pace place s = press.layOutWith pace (fun _ _ => press.answer) place s ∧
      ∀ answers : Requests.Answering, (∀ kind i c, (answers kind i c).ends = true) →
        (press.layOutWith pace answers place s).InOrder ∧
          press.Handles answers place s (press.layOutWith pace answers place s).made
            (press.layOutWith pace answers place s).ending := by
  refine ⟨layOut_eq_layOutWith press pace place s, fun answers hends =>
    ⟨inOrder_layOutWith pace answers place s, ?_⟩⟩
  cases hraw : s.isRaw with
  | true =>
    unfold layOutWith
    rw [if_pos hraw]
    exact .raw hraw
  | false =>
    cases ht : press.templates.get? s.template with
    | none =>
      rw [layOutWith_of_error hraw (by unfold draft; rw [ht])]
      exact .unregistered hraw ht
    | some t =>
      cases hv : press.templates.validate s.template (.map s.content) with
      | error f =>
        rw [layOutWith_of_error hraw (by unfold draft; rw [ht]; dsimp only; rw [hv])]
        exact .unchecked hraw ht hv
      | ok v =>
        cases hvalid : v.valid with
        | true => exact (Fits.mk hraw ht ⟨v, hv, hvalid⟩).handles hpace hends
        | false =>
          rw [layOutWith_of_error hraw (by rw [draft_of_checked ht hv, if_neg (by simp [hvalid])])]
          exact .rejected hraw ht hv hvalid

/-- The template of slides that show icons and quote. -/
def iconsTemplate : Registered :=
  ⟨⟨"icons", "", "text", [],
    "\x7b% for n in content.names %\x7d\x7b\x7b icons.render(n) \x7d\x7d" ++
      "\x7b% endfor %\x7d\x7b\x7b refs.expand(refs.cite(\"k\")) \x7d\x7d", none, none⟩, .mapping⟩

/-- A press for such slides. -/
def drawing : Press where
  templates := Registry.empty.register iconsTemplate
  icon := fun _ => .ok "*"
  cite := fun id => .ok ("(" ++ id ++ ")")
  expand := fun s => .ok s

/-- A slide that asks for one icon twice. -/
def twice : Slide :=
  ⟨"icons", Entries.ofNames [ ("names", .list [ .str "sun", .str "moon", .str "sun"])], none, none,
    none⟩

/-- Answers to such a slide, where the last icon has none. -/
def lastLost : Requests.Answering
  | .icon, 2, _ => .error (.failed (.fault .noKey))
  | _, _, _ => .ok "*"

theorem lastLost_ends (kind : RequestKind) (i : Nat) (c : Call) :
    (lastLost kind i c).ends = true := by
  unfold lastLost
  split <;> rfl

theorem handles_layOut_twice :
    (drawing.layOutWith Pace.even lastLost default twice).ending = .error (.failed (.fault .noKey)) ∧
      drawing.Handles lastLost default twice
        (drawing.layOutWith Pace.even lastLost default twice).made
        (drawing.layOutWith Pace.even lastLost default twice).ending :=
  ⟨by decide +kernel, ((handles_layOut drawing Pace.even_inStep default twice).2 lastLost
    lastLost_ends).2⟩

/-- All icons are called for, and nothing after them. -/
example : ((drawing.layOutWith Pace.even lastLost default twice).made.map fun
    | .icon r => r.name
    | _ => "") = [ "sun", "moon", "sun"] := by
  decide +kernel

end Press

end SlidePress
