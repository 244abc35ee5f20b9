import SlidePress.Proofs.Layout.Answered

/-! # The calls of a run

A run that returns has made the calls that its slides lead to, all of them and no others, however
many slides are laid out at a time (`Press.made_layOutAt`). Where slides are laid out together, calls
behind the end of the run would be cut off; but a slide makes its calls before it ends
(`Course.Prompt`), and a run that returns ends after all its slides. -/

namespace SlidePress

namespace Course

variable {α β : Type} {c : Course α} {f : α → Course β}

/-- The calls of a course, whenever they are made. -/
def made (c : Course α) : List Call := c.calls.map Prod.snd

theorem map_snd_later (time : Nat) (calls : List (Nat × Call)) :
    (later time calls).map Prod.snd = calls.map Prod.snd := by
  rw [later, List.map_map]
  rfl

theorem made_bind_of_ok {a : α} (h : c.ending = .ok a) (f : α → Course β) :
    (c >>= f).made = c.made ++ (f a).made := by
  show (andThen c f).made = _
  rw [andThen_of_ok h, made, List.map_append, map_snd_later]
  rfl

theorem made_round (pace : Nat → Nat) (requests : List (Call × Ending SlideError String)) :
    (round pace requests).made = requests.map Prod.fst := by
  unfold round made
  split_ifs with h
  · rw [List.isEmpty_iff.1 h]
    rfl
  · rw [List.map_map]
    rfl

theorem made_mapM {xs : List α} {ys : List β} (h : (xs.mapM f).ending = .ok ys) :
    (xs.mapM f).made = xs.flatMap fun x => (f x).made := by
  induction xs generalizing ys with
  | nil => rfl
  | cons x xs ih =>
    rw [List.mapM_cons] at h ⊢
    rw [ending_bind] at h
    obtain ⟨y, hy, h⟩ := Attempt.bind_eq_ok.1 h
    rw [ending_bind] at h
    obtain ⟨ys', hys, -⟩ := Attempt.bind_eq_ok.1 h
    rw [made_bind_of_ok hy, made_bind_of_ok hys, ih hys, List.flatMap_cons]
    exact congrArg _ (List.append_nil _)

/-- All calls are made before the end. -/
def Prompt (c : Course α) : Prop := ∀ p ∈ c.calls, p.1 ≤ c.steps

theorem prompt_ofExcept (r : Except SlideError α) : (ofExcept r).Prompt := fun _ h => by cases h

theorem prompt_done (a : α) : (done a).Prompt := fun _ h => by cases h

theorem prompt_round (pace : Nat → Nat) (requests : List (Call × Ending SlideError String)) :
    (round pace requests).Prompt := by
  unfold round
  split_ifs
  · exact prompt_done []
  · intro p hp
    obtain ⟨q, -, rfl⟩ := List.mem_map.1 hp
    exact Nat.zero_le _

theorem Prompt.bind (hc : c.Prompt) (hf : ∀ a, (f a).Prompt) : (c >>= f).Prompt := by
  show (andThen c f).Prompt
  cases h : c.ending with
  | error e =>
    rw [andThen_of_error h]
    exact hc
  | ok a =>
    rw [andThen_of_ok h]
    intro p hp
    rcases List.mem_append.1 hp with hp | hp
    · exact (hc p hp).trans (Nat.le_add_right _ _)
    · obtain ⟨q, hq, rfl⟩ := List.mem_map.1 hp
      exact Nat.add_le_add_left (hf a q hq) _

end Course

theorem Requests.prompt_resolveWith (pace : Pace)
    (asked : RequestKind → List (Call × Ending SlideError String)) (draft : String) :
    (resolveWith pace asked draft).Prompt :=
  (Course.prompt_round _ _).bind fun _ => (Course.prompt_round _ _).bind fun _ =>
    (Course.prompt_round _ _).bind fun _ => Course.prompt_done _

/-- If nothing fails, the gatherer goes on after every task. -/
theorem steps_le_noticeTime {ε α : Type} {ts : List (Task ε α)}
    (h : ∀ t ∈ ts, t.ending.fails = false) {t : Task ε α} (ht : t ∈ ts) :
    t.steps ≤ noticeTime ts := by
  have hlast : ∀ (n : Nat) (steps : List Nat),
      n ≤ steps.foldl max n ∧ ∀ k ∈ steps, k ≤ steps.foldl max n := by
    intro n steps
    induction steps generalizing n with
    | nil => simp
    | cons k steps ih =>
      obtain ⟨hmax, hall⟩ := ih (max n k)
      rw [List.foldl_cons]
      exact ⟨(le_max_left n k).trans hmax,
        List.forall_mem_cons.2 ⟨(le_max_right n k).trans hmax, hall⟩⟩
  rw [noticeTime, (firstFailure?_eq_none_iff ts).2 h]
  exact ((hlast 0 _).2 _ (List.mem_map_of_mem ht)).trans (Nat.le_add_right _ _)

namespace Press

variable {press : Press} {paces : Nat → Pace} {limit : Nat} {d : Deck} {bodies : List String}

theorem prompt_layOut (pace : Pace) (place : SlidePlace) (s : Slide) :
    (press.layOut pace place s).Prompt := by
  unfold layOut
  split_ifs
  · exact Course.prompt_done _
  · refine (Course.prompt_ofExcept _).bind fun p => ?_
    exact (Requests.prompt_resolveWith _ _ _).bind fun _ => Course.prompt_done _

theorem made_resolve {pace : Pace} {r : Requests} {draft text : String}
    (h : (r.resolve press pace draft).ending = .ok text) :
    (r.resolve press pace draft).made = callsFor r := by
  have hround (k : RequestKind) :
      (Course.round (pace k) ((r.calls k).map fun c => (c, press.answer c))).made = r.calls k := by
    rw [Course.made_round, List.map_map]
    exact List.map_id _
  simp only [Requests.resolve, Requests.resolveWith, Course.ending_bind, Attempt.bind_eq_ok] at h ⊢
  obtain ⟨icons, hicons, cites, hcites, expands, hexpands, -⟩ := h
  rw [Course.made_bind_of_ok hicons, Course.made_bind_of_ok hcites,
    Course.made_bind_of_ok hexpands, hround, hround, hround]
  exact congrArg _ (congrArg _ (List.append_nil _))

/-- **A slide that is laid out** has made the calls that it leads to. -/
theorem made_layOut {pace : Pace} {x : SlidePlace × Slide} {body : String}
    (h : (press.layOut pace x.1 x.2).ending = .ok body) :
    (press.layOut pace x.1 x.2).made = press.callsOf x := by
  unfold callsOf
  unfold layOut at h ⊢
  split_ifs at h ⊢ with hraw
  · rfl
  · rw [Course.ending_bind] at h
    obtain ⟨p, hp, h⟩ := Attempt.bind_eq_ok.1 h
    rw [Course.ending_bind] at h
    obtain ⟨text, htext, -⟩ := Attempt.bind_eq_ok.1 h
    rw [Course.made_bind_of_ok hp, Course.made_bind_of_ok htext, made_resolve htext]
    cases hdraft : press.draft x.1 x.2 with
    | error e =>
      rw [hdraft] at hp
      cases hp
    | ok q =>
      rw [hdraft] at hp
      cases hp
      exact List.append_nil _

/-- What is left of the calls of tasks that have begun, if all end in time. -/
theorem made_callsFrom {time : Nat} :
    ∀ {times : List Nat} {cs : List (Course String)}, times.length = cs.length →
      (∀ t ∈ List.zipWith taskFrom (times.map some) cs, t.steps ≤ time) → (∀ c ∈ cs, c.Prompt) →
      (((List.zipWith callsFrom (times.map some) cs).flatten.filter fun p => p.1 ≤ time).map
        Prod.snd) = cs.flatMap Course.made
  | [], [], _, _, _ => rfl
  | [], _ :: _, hl, _, _ => by cases hl
  | _ :: _, [], hl, _, _ => by cases hl
  | start :: times, c :: cs, hl, htime, hprompt => by
    obtain ⟨hc, hcs⟩ := List.forall_mem_cons.1 htime
    obtain ⟨hcprompt, hcsprompt⟩ := List.forall_mem_cons.1 hprompt
    have hkept : (Course.later start c.calls).filter (fun p => p.1 ≤ time) =
        Course.later start c.calls := List.filter_eq_self.2 fun p hp => by
      obtain ⟨q, hq, rfl⟩ := List.mem_map.1 hp
      exact decide_eq_true ((Nat.add_le_add_left (hcprompt q hq) start).trans hc)
    rw [List.map_cons, List.zipWith_cons_cons, List.flatten_cons, List.filter_append,
      List.map_append, made_callsFrom (Nat.succ.inj hl) hcs hcsprompt, List.flatMap_cons]
    show (List.filter _ (Course.later start c.calls)).map Prod.snd ++ _ = _
    rw [hkept, Course.map_snd_later]
    rfl

theorem made_together (hlimit : 1 ≤ limit)
    (h : (press.together paces limit d).ending = .ok bodies) :
    (press.together paces limit d).made = (press.courses paces d).flatMap Course.made := by
  have hendings := (ending_together_eq_ok hlimit).1 h
  have hok : ∀ c ∈ press.courses paces d, ∃ b, c.ending = .ok b :=
    Attempt.exists_ok_of_map hendings
  have hends : ∀ c ∈ press.courses paces d, c.ending.ends = true := fun c hc => by
    obtain ⟨b, hb⟩ := hok c hc
    rw [hb]
    rfl
  have hprompt : ∀ c ∈ press.courses paces d, c.Prompt := fun c hc => by
    obtain ⟨x, -, rfl⟩ := List.mem_map.1 hc
    exact prompt_layOut _ _ _
  obtain ⟨times, hstarts, hlength⟩ := exists_starts limit hends hlimit
  have hfails : ∀ t ∈ List.zipWith taskFrom (times.map some) (press.courses paces d),
      t.ending.fails = false := fun t ht => by
    have hmem := List.mem_map_of_mem (f := Task.ending) ht
    rw [map_ending_taskFrom hlength] at hmem
    obtain ⟨c, hc, hct⟩ := List.mem_map.1 hmem
    obtain ⟨b, hb⟩ := hok c hc
    rw [← hct, hb]
    rfl
  unfold together Course.made
  dsimp only
  rw [hstarts]
  exact made_callsFrom hlength (fun t ht => steps_le_noticeTime hfails ht) hprompt

/-- **A deck that is laid out** has made the calls that its slides lead to. -/
theorem made_layOutAt (h : (press.layOutAt paces limit d).ending = .ok bodies) :
    (press.layOutAt paces limit d).made = (placed d).flatMap press.callsOf := by
  have hslides := (ending_layOutAt_eq_ok.1 h).1
  have hmade : ∀ x ∈ placed d, (press.layOut (paces x.1.index) x.1 x.2).made = press.callsOf x :=
    fun x hx => made_layOut (ending_layOut_eq_ok.2 ⟨hslides x hx, rfl⟩)
  have hcourses : (placed d).flatMap (fun x => (press.layOut (paces x.1.index) x.1 x.2).made) =
      (placed d).flatMap press.callsOf := List.flatMap_congr hmade
  unfold layOutAt at h ⊢
  split_ifs at h ⊢ with hlimit
  · exact (Course.made_mapM h).trans hcourses
  · rw [made_together (by omega) h, courses, List.flatMap_map]
    exact hcourses

end Press

end SlidePress
