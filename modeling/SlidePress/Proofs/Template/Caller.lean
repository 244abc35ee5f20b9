import Mathlib.Tactic.SplitIfs
import SlidePress.Template.Eval

/-! # Templates and their caller

A running template hands the state of its caller on and never looks into it. So it makes no
difference whether the caller works on its own state or on one that its state is read off from: where
two callers have the same operations and answer alike, the same template prints the same text for
both, fails alike for both, and leaves states that go together (`renderWith_mirrors`).

`Mirrors` says this of any two runs. Each function of the evaluator hands it on from what it
calls, and only `callOperation` asks the caller. -/

namespace SlidePress.Template

variable {σ τ α β : Type} {f : τ → σ}

/-- The same variables and objects for a caller whose state is read off. -/
def Store.mapHost (f : τ → σ) (s : Store τ) : Store σ :=
  ⟨s.scopes, s.records, s.loops, s.streams, s.procedures, f s.host⟩

theorem Store.mapHost_assign (s : Store τ) (name : String) (v : Value) :
    (s.assign name v).mapHost f = (s.mapHost f).assign name v := by
  obtain ⟨scopes, _, _, _, _, _⟩ := s
  cases scopes <;> rfl

/-- **Two runs go together**: from states that go together they give the same, or fail alike, and
the states afterwards go together. -/
def Mirrors (f : τ → σ) (r : Run σ α) (q : Run τ α) : Prop :=
  ∀ s : Store τ, r (s.mapHost f) = (q s).map fun p => (p.1, p.2.mapHost f)

/-- Two callers with the same operations, which answer alike. -/
structure Host.Mirrors (f : τ → σ) (h : Host σ) (g : Host τ) : Prop where
  operations : h.operations = g.operations
  call : ∀ object operation a t, h.call object operation a (f t) =
    (g.call object operation a t).map fun p => (p.1, f p.2)

/-! ### Runs that go together -/

namespace Mirrors

variable {r : Run σ α} {q : Run τ α}

theorem pure (a : α) : Mirrors f (Pure.pure a) (Pure.pure a) := fun _ => rfl

theorem throw (e : Fault) : Mirrors f (α := α) (throw e) (throw e) := fun _ => rfl

theorem ofAttempt (t : Attempt α) : Mirrors f (Run.ofAttempt t) (Run.ofAttempt t) := fun s => by
  cases t <;> rfl

theorem bind {k : α → Run σ β} {l : α → Run τ β} (hr : Mirrors f r q)
    (hk : ∀ a, Mirrors f (k a) (l a)) : Mirrors f (r >>= k) (q >>= l) := by
  intro s
  have hrk : (r >>= k) (s.mapHost f) = r (s.mapHost f) >>= fun p => k p.1 p.2 := rfl
  have hql : (q >>= l) s = q s >>= fun p => l p.1 p.2 := rfl
  rw [hrk, hql, hr s]
  cases q s with
  | error e => rfl
  | ok p => exact hk p.1 p.2

/-- Behind a look at the state. -/
theorem look {k : Store σ → Run σ β} {l : Store τ → Run τ β}
    (h : ∀ s : Store τ, k (s.mapHost f) (s.mapHost f) =
      (l s s).map fun p => (p.1, p.2.mapHost f)) : Mirrors f (get >>= k) (get >>= l) := h

theorem ite {c : Prop} [Decidable c] {r' : Run σ α} {q' : Run τ α} (hr : Mirrors f r q)
    (hr' : Mirrors f r' q') : Mirrors f (if c then r else r') (if c then q else q') := by
  split_ifs
  · exact hr
  · exact hr'

theorem map (hr : Mirrors f r q) (g : α → β) : Mirrors f (g <$> r) (g <$> q) := by
  rw [← bind_pure_comp, ← bind_pure_comp]
  exact hr.bind fun _ => pure _

theorem mapM {γ : Type} {k : γ → Run σ β} {l : γ → Run τ β} (h : ∀ x, Mirrors f (k x) (l x)) :
    ∀ xs : List γ, Mirrors f (xs.mapM k) (xs.mapM l)
  | [] => pure []
  | x :: xs => by
    rw [List.mapM_cons, List.mapM_cons]
    exact (h x).bind fun _ => (mapM h xs).bind fun _ => pure _

theorem foldlM {γ : Type} {k : β → γ → Run σ β} {l : β → γ → Run τ β}
    (h : ∀ b x, Mirrors f (k b x) (l b x)) :
    ∀ (xs : List γ) (b : β), Mirrors f (xs.foldlM k b) (xs.foldlM l b)
  | [], b => pure b
  | x :: xs, b => (h b x).bind fun c => foldlM h xs c

/-- From states that go together both fail alike, or both give the same. -/
theorem ends (hr : Mirrors f r q) (s : Store τ) :
    (∃ e, r (s.mapHost f) = .error e ∧ q s = .error e) ∨
      ∃ a s', r (s.mapHost f) = .ok (a, s'.mapHost f) ∧ q s = .ok (a, s') := by
  have h := hr s
  cases hq : q s with
  | error e =>
    rw [hq] at h
    exact Or.inl ⟨e, h, rfl⟩
  | ok p =>
    rw [hq] at h
    exact Or.inr ⟨p.1, p.2, h, rfl⟩

/-! ### The state -/

theorem inScope (scope : Scope) (hr : Mirrors f r q) :
    Mirrors f (Run.inScope scope r) (Run.inScope scope q) := by
  intro s
  have h := hr { s with scopes := scope :: s.scopes }
  have hrun : Run.inScope scope r (s.mapHost f) =
      r ({ s with scopes := scope :: s.scopes }.mapHost f) >>= fun p =>
        .ok (p.1, { p.2 with scopes := p.2.scopes.tail }) := rfl
  have hrun' : Run.inScope scope q s = q { s with scopes := scope :: s.scopes } >>= fun p =>
      .ok (p.1, { p.2 with scopes := p.2.scopes.tail }) := rfl
  rw [hrun, hrun', h]
  cases q { s with scopes := scope :: s.scopes } <;> rfl

theorem onTopOf (n : Nat) (scope : Scope) (hr : Mirrors f r q) :
    Mirrors f (Run.onTopOf n scope r) (Run.onTopOf n scope q) := by
  intro s
  have h := hr { s with scopes := scope :: s.scopes.drop (s.scopes.length - n) }
  have hrun : Run.onTopOf n scope r (s.mapHost f) =
      r ({ s with scopes := scope :: s.scopes.drop (s.scopes.length - n) }.mapHost f) >>= fun p =>
        .ok (p.1, { p.2 with scopes := s.scopes }) := rfl
  have hrun' : Run.onTopOf n scope q s =
      q { s with scopes := scope :: s.scopes.drop (s.scopes.length - n) } >>= fun p =>
        .ok (p.1, { p.2 with scopes := s.scopes }) := rfl
  rw [hrun, hrun', h]
  cases q { s with scopes := scope :: s.scopes.drop (s.scopes.length - n) } <;> rfl

theorem newRecord (es : Entries) : Mirrors f (Run.newRecord es) (Run.newRecord es) := fun _ => rfl

theorem newStream (o : Once) : Mirrors f (Run.newStream o) (Run.newStream o) := fun _ => rfl

theorem newLoop (l : Loop) : Mirrors f (Run.newLoop l) (Run.newLoop l) := fun _ => rfl

theorem newProcedure (a : Action) : Mirrors f (Run.newProcedure a) (Run.newProcedure a) :=
  fun _ => rfl

theorem setLoop (id : Nat) (l : Loop) : Mirrors f (Run.setLoop id l) (Run.setLoop id l) :=
  fun _ => rfl

theorem valueOf (name : String) : Mirrors f (Run.valueOf name) (Run.valueOf name) := fun _ => rfl

theorem assign (name : String) (v : Value) : Mirrors f (Run.assign name v) (Run.assign name v) :=
  fun s => congrArg (fun s => Except.ok ((), s)) (s.mapHost_assign name v).symm

/-- The next turn of a loop. -/
theorem setPosition (id i : Nat) (hr : Mirrors f r q) :
    Mirrors f
      (do
        let l := (← get).loops.getD id default
        Run.setLoop id { l with position := i }
        r)
      (do
        let l := (← get).loops.getD id default
        Run.setLoop id { l with position := i }
        q) :=
  look fun s => ((setLoop id { s.loops.getD id default with position := i }).bind fun _ => hr) s

/-- A result, or a fault where there is one. -/
theorem orFault (e : Option Fault) (hr : Mirrors f r q) :
    Mirrors f (match e with
      | some e => MonadExcept.throw e
      | none => r) (match e with
      | some e => MonadExcept.throw e
      | none => q) := by
  cases e with
  | none => exact hr
  | some e => exact throw e

theorem iterate (v : Value) : Mirrors f (Run.iterate v) (Run.iterate v) := by
  cases v with
  | ref r =>
    cases r with
    | stream id =>
      refine look fun s => ?_
      exact orFault (s.streams.getD id default).fault (pure _)
        { s with streams := s.streams.set id ⟨[], none⟩ }
    | _ => exact ofAttempt _
  | again _ _ => exact throw _
  | _ => exact ofAttempt _

theorem first? (v : Value) : Mirrors f (Run.first? v) (Run.first? v) := by
  cases v with
  | ref r =>
    cases r with
    | stream id =>
      refine look fun s => ?_
      dsimp only [Store.mapHost]
      cases (s.streams.getD id default).items with
      | cons x rest => rfl
      | nil => exact orFault (s.streams.getD id default).fault (pure none) s
    | _ => exact (iterate _).bind fun _ => pure _
  | _ => exact (iterate _).bind fun _ => pure _

/-! ### Parts and operations -/

section

variable {host : Host σ} {host' : Host τ} (hh : host.Mirrors f host')
include hh

theorem nativePart? (v : Value) (name : String) :
    Mirrors f (Template.nativePart? host v name) (Template.nativePart? host' v name) := by
  cases v with
  | ref r =>
    cases r with
    | helper h =>
      unfold Template.nativePart?
      rw [hh.operations]
      exact pure _
    | record id => exact fun _ => rfl
    | loop id =>
      refine look fun s => ?_
      dsimp only [Store.mapHost]
      cases (s.loops.getD id default).part? name <;> rfl
    | _ => exact pure _
  | _ =>
    unfold Template.nativePart?
    dsimp only
    split <;> exact pure _

theorem namedPart (d : Dialect) (v : Value) (name : String) :
    Mirrors f (Template.namedPart d host v name) (Template.namedPart d host' v name) := by
  cases v with
  | map es =>
    unfold Template.namedPart
    dsimp only
    split
    · exact pure _
    · refine (nativePart? hh _ name).bind fun p => ?_
      cases p <;> exact pure _
  | _ =>
    refine (nativePart? hh _ name).bind fun p => ?_
    cases p
    · exact ofAttempt _
    · exact pure _

theorem itemPart (d : Dialect) (v i : Value) :
    Mirrors f (Template.itemPart d host v i) (Template.itemPart d host' v i) := by
  unfold Template.itemPart
  split
  · exact pure _
  · split
    · exact ofAttempt _
    · exact (nativePart? hh _ _).bind fun _ => pure _
    · exact pure _

omit hh in
theorem callLoop (id : Nat) (name : String) (a : Arguments) :
    Mirrors f (Template.callLoop (σ := σ) id name a) (Template.callLoop id name a) := by
  refine look fun s => ?_
  dsimp only [Store.mapHost]
  generalize s.loops.getD id default = l
  split_ifs with hnamed hcycle hsame
  · rfl
  · cases a.positional <;> rfl
  · rfl
  · rfl

theorem callOperation (v : Value) (name : String) (a : Arguments) :
    Mirrors f (Template.callOperation host v name a) (Template.callOperation host' v name a) := by
  cases v with
  | ref r =>
    cases r with
    | helper h =>
      intro s
      show (host.call h name a (f s.host) >>= fun p => _ : Except Fault (Value × Store σ)) = _
      rw [hh.call]
      show _ = (host'.call h name a s.host >>= fun p => _ : Except Fault (Value × Store τ)).map _
      cases host'.call h name a s.host <;> rfl
    | loop id => exact callLoop id name a
    | _ => exact ofAttempt _
  | str s =>
    exact ite ((ofAttempt _).bind fun _ => (iterate _).bind fun _ => ofAttempt _) (ofAttempt _)
  | _ => exact ofAttempt _

/-! ### Filters -/

theorem follow (d : Dialect) (way : List Value) (v : Value) :
    Mirrors f (Filter.follow d host way v) (Filter.follow d host' way v) :=
  foldlM (fun v i => itemPart hh d v i) way v

theorem keyed (d : Dialect) (exact : Bool) (way : Value) (xs : List Value) :
    Mirrors f (Filter.keyed d host exact way xs) (Filter.keyed d host' exact way xs) :=
  mapM (fun x => (mapM (fun w => follow hh d w x) _).bind fun _ => pure _) xs

theorem sort (d : Dialect) (v : Value) (a : Arguments) :
    Mirrors f (Filter.sort d host v a) (Filter.sort d host' v a) :=
  (ofAttempt _).bind fun _ => (iterate v).bind fun _ => (keyed hh d _ _ _).bind fun _ =>
    (ofAttempt _).bind fun _ => pure _

theorem extreme (d : Dialect) (greatest : Bool) (v : Value) (a : Arguments) :
    Mirrors f (Filter.extreme d host greatest v a) (Filter.extreme d host' greatest v a) := by
  refine (ofAttempt _).bind fun vs => (iterate v).bind fun xs => ?_
  cases xs with
  | nil => exact pure _
  | cons x xs =>
    refine ((follow hh d _ x).bind fun _ => pure _).bind fun first =>
      (foldlM (fun best y => ?_) xs _).bind fun _ => pure _
    exact ((follow hh d _ y).bind fun _ => pure _).bind fun k => (ofAttempt _).bind fun _ => pure _

theorem sum (d : Dialect) (v : Value) (a : Arguments) :
    Mirrors f (Filter.sum d host v a) (Filter.sum d host' v a) :=
  (ofAttempt _).bind fun _ => ite (throw _) ((iterate v).bind fun xs =>
    foldlM (fun _ x => (follow hh d _ x).bind fun _ => ofAttempt _) xs _)

theorem join (d : Dialect) (v : Value) (a : Arguments) :
    Mirrors f (Filter.join d host v a) (Filter.join d host' v a) :=
  (ofAttempt _).bind fun _ => (iterate v).bind fun xs =>
    (mapM (fun x => (follow hh d _ x).bind fun _ => pure _) xs).bind fun _ => pure _

omit hh in
theorem collect {step : Value → Run σ (List Value)} {step' : Value → Run τ (List Value)}
    (h : ∀ x, Mirrors f (step x) (step' x)) (xs : List Value) :
    Mirrors f (Filter.collect step xs) (Filter.collect step' xs) := by
  induction xs with
  | nil => exact pure _
  | cons x xs ih =>
    intro s
    unfold Filter.collect
    rcases (h x).ends s with ⟨e, hr, hq⟩ | ⟨ys, s', hr, hq⟩
    · simp only [hr, hq]
      rfl
    · simp only [hr, hq]
      rw [ih s']
      cases Filter.collect step' xs s' <;> rfl

omit hh in
theorem selection {step : Value → Run σ (List Value)} {step' : Value → Run τ (List Value)}
    (v : Value) (h : ∀ x, Mirrors f (step x) (step' x)) :
    Mirrors f (Filter.selection v step) (Filter.selection v step') := by
  intro s
  unfold Filter.selection
  rcases (iterate (f := f) v).ends s with ⟨e, hr, hq⟩ | ⟨xs, s', hr, hq⟩
  · simp only [hr, hq]
    exact newStream _ s
  · simp only [hr, hq]
    exact ((collect h xs).bind fun once => newStream once) s'

theorem select (d : Dialect) (keep byPart : Bool) (v : Value) (a : Arguments) :
    Mirrors f (Filter.select d host keep byPart v a) (Filter.select d host' keep byPart v a) := by
  refine ite (newStream _) (ite (newStream _)
    (selection v fun x => (follow hh d _ x).bind fun y => ?_))
  dsimp only
  split
  · exact (pure _).bind fun _ => pure _
  · split
    · exact (ofAttempt _).bind fun _ => pure _
    · exact (throw _).bind fun _ => pure _

theorem unique (d : Dialect) (v : Value) (a : Arguments) :
    Mirrors f (Filter.unique d host v a) (Filter.unique d host' v a) := by
  refine (ofAttempt _).bind fun vs s => ?_
  have hbody := ((iterate v).bind fun xs => (mapM (fun x => (follow hh d
    (Filter.wayOf (Filter.param vs 1 .null)) x).bind fun k => pure
      (Filter.sortKey (Filter.param vs 0 .null).truthy k, x)) xs).bind fun es =>
        ofAttempt (Filter.distinct es []))
  rcases hbody.ends s with ⟨e, hr, hq⟩ | ⟨xs, s', hr, hq⟩
  · simp only [hr, hq]
    exact newStream _ s
  · simp only [hr, hq]
    exact newStream _ s'

omit hh in
theorem batch (v : Value) (a : Arguments) : Mirrors f (Filter.batch v a) (Filter.batch v a) := by
  refine (ofAttempt _).bind fun vs s => ?_
  rcases (iterate (f := f) v).ends s with ⟨e, hr, hq⟩ | ⟨xs, s', hr, hq⟩
  · simp only [hr, hq]
    exact newStream _ s
  · simp only [hr, hq]
    split
    · exact newStream _ s'
    · split <;> exact newStream _ s'

omit hh in
theorem reverse (v : Value) (a : Arguments) :
    Mirrors f (Filter.reverse v a) (Filter.reverse v a) := by
  refine (ofAttempt _).bind fun _ => ?_
  split
  · exact pure _
  · exact pure _
  · exact pure _
  · exact (iterate _).bind fun _ => pure _
  · split
    · exact newStream _
    · exact throw _

omit hh in
theorem entries (v : Value) (a : Arguments) :
    Mirrors f (Filter.entries v a) (Filter.entries v a) := by
  refine (ofAttempt _).bind fun _ => ?_
  cases v <;> exact newStream _

theorem applyWith {inner : String → Value → Arguments → Run σ Value}
    {inner' : String → Value → Arguments → Run τ Value}
    (h : ∀ name v a, Mirrors f (inner name v a) (inner' name v a)) (d : Dialect) (name : String)
    (v : Value) (a : Arguments) :
    Mirrors f (Filter.applyWith inner d host name v a) (Filter.applyWith inner' d host' name v a) := by
  unfold Filter.applyWith
  split
  · exact (ofAttempt _).bind fun _ => ofAttempt _
  split
  · exact ofAttempt _
  split
  · exact ofAttempt _
  · exact ofAttempt _
  · exact join hh d v a
  · exact (ofAttempt _).bind fun _ => (first? v).bind fun _ => pure _
  · exact ofAttempt _
  · exact reverse v a
  · exact (ofAttempt _).bind fun _ => (iterate v).bind fun _ => pure _
  · exact sort hh d v a
  · exact ofAttempt _
  · exact sum hh d v a
  · exact extreme hh d true v a
  · exact extreme hh d false v a
  · exact unique hh d v a
  · exact batch v a
  · exact entries v a
  · exact (ofAttempt _).bind fun _ => (nativePart? hh v _).bind fun _ => pure _
  · exact select hh d true false v a
  · exact select hh d false false v a
  · exact select hh d true true v a
  · exact select hh d false true v a
  · refine ite (newStream _) ?_
    split
    · refine ite (newStream _) (selection v fun x => (follow hh d _ x).bind fun y => ?_)
      split <;> exact pure _
    · exact newStream _
    · refine selection v fun x => ?_
      split
      · exact (h _ _ _).bind fun _ => pure _
      · exact throw _
  · exact ite (throw _) (throw _)

theorem applyAt (d : Dialect) : ∀ (n : Nat) (name : String) (v : Value) (a : Arguments),
    Mirrors f (Filter.applyAt d host n name v a) (Filter.applyAt d host' n name v a)
  | 0, name, v, a => applyWith hh (fun _ _ _ => throw _) d name v a
  | n + 1, name, v, a => applyWith hh (fun name v a => applyAt d n name v a) d name v a

theorem apply (d : Dialect) (name : String) (v : Value) (a : Arguments) :
    Mirrors f (Filter.apply d host name v a) (Filter.apply d host' name v a) :=
  applyAt hh d _ name v a

end

/-! ### Calls -/

theorem entriesFrom (v : Value) :
    Mirrors f (Template.entriesFrom v) (Template.entriesFrom v) := by
  unfold Template.entriesFrom
  split
  · exact pure _
  · refine (iterate _).bind fun ps => (mapM (fun p => ?_) ps).bind fun _ => pure _
    refine (iterate p).bind fun xs => ?_
    split
    · exact ite (pure _) (throw _)
    · exact throw _

theorem entriesOfCall (a : Arguments) :
    Mirrors f (Template.entriesOfCall a) (Template.entriesOfCall a) := by
  unfold Template.entriesOfCall
  dsimp only
  split
  · exact (pure _).bind fun _ => pure _
  · exact (entriesFrom _).bind fun _ => pure _
  · exact (throw _).bind fun _ => pure _

theorem callBuiltin (name : String) (a : Arguments) :
    Mirrors f (Template.callBuiltin name a) (Template.callBuiltin name a) := by
  unfold Template.callBuiltin
  split
  · exact ofAttempt _
  · exact (entriesOfCall a).bind fun _ => pure _
  · exact (entriesOfCall a).bind fun _ => newRecord _
  · exact throw _

end Mirrors

/-- Two surroundings of a template that go together. -/
structure Env.Mirrors (f : τ → σ) (env : Env σ) (env' : Env τ) : Prop where
  dialect : env.dialect = env'.dialect
  host : env.host.Mirrors f env'.host
  invoke : ∀ id a, Template.Mirrors f (env.invoke id a) (env'.invoke id a)

namespace Mirrors

variable {r : Run σ α} {q : Run τ α} {env : Env σ} {env' : Env τ}

theorem call (he : env.Mirrors f env') (g : Value) (a : Arguments) :
    Mirrors f (env.call g a) (env'.call g a) := by
  unfold Env.call
  split
  · exact callOperation he.host _ _ a
  · exact callBuiltin _ a
  · exact he.invoke _ a
  · refine look fun s => ?_
    dsimp only [Store.mapHost]
    cases (s.loops.getD _ default).again with
    | some p => exact he.invoke p a s
    | none => rfl
  · exact throw _
  · exact throw _

/-! ### Expressions -/

mutual

theorem eval (he : env.Mirrors f env') : ∀ e : Expr, Mirrors f (e.eval env) (e.eval env')
  | .const v => pure v
  | .name s => valueOf s
  | .list es => (evalAll he es).bind fun _ => pure _
  | .tuple es => (evalAll he es).bind fun _ => pure _
  | .dict es => (evalPairs he es).bind fun _ => ite (pure _) (throw _)
  | .attr e n => by
    rw [Expr.eval, Expr.eval, he.dialect]
    exact (eval he e).bind fun v => namedPart he.host _ v n
  | .item e i => by
    rw [Expr.eval, Expr.eval, he.dialect]
    exact (eval he e).bind fun v => (eval he i).bind fun i => itemPart he.host _ v i
  | .slice e a b c => by
    rw [Expr.eval, Expr.eval, he.dialect]
    exact (eval he e).bind fun _ => (eval he a).bind fun _ => (eval he b).bind fun _ =>
      (eval he c).bind fun _ => ofAttempt _
  | .call g args => (eval he g).bind fun g => (evalArgs he args).bind fun a => call he g a
  | .filter e n args => by
    rw [Expr.eval, Expr.eval, he.dialect]
    exact (eval he e).bind fun v => (evalArgs he args).bind fun a => apply he.host _ n v a
  | .test e n args => (eval he e).bind fun _ => (evalArgs he args).bind fun _ =>
    (ofAttempt _).bind fun _ => pure _
  | .negate e => (eval he e).bind fun _ => pure _
  | .both a b => (eval he a).bind fun _ => ite (eval he b) (pure _)
  | .either a b => (eval he a).bind fun _ => ite (pure _) (eval he b)
  | .choose c a b => (eval he c).bind fun _ => ite (eval he a) (eval he b)
  | .compare e ops => (eval he e).bind fun v => evalChain he v ops
  | .binary op a b => (eval he a).bind fun _ => (eval he b).bind fun _ => ofAttempt _
  | .minus e => (eval he e).bind fun _ => ofAttempt _
  | .plus e => (eval he e).bind fun _ => ofAttempt _
  | .concat es => (evalAll he es).bind fun _ => pure _
termination_by structural e => e

theorem evalAll (he : env.Mirrors f env') :
    ∀ es : List Expr, Mirrors f (Expr.evalAll env es) (Expr.evalAll env' es)
  | [] => pure _
  | e :: es => (eval he e).bind fun _ => (evalAll he es).bind fun _ => pure _
termination_by structural es => es

theorem evalPairs (he : env.Mirrors f env') : ∀ es : List (Expr × Expr),
    Mirrors f (Expr.evalPairs env es) (Expr.evalPairs env' es)
  | [] => pure _
  | (k, e) :: es =>
    (eval he k).bind fun _ => (eval he e).bind fun _ => (evalPairs he es).bind fun _ => pure _
termination_by structural es => es

theorem evalArgs (he : env.Mirrors f env') : ∀ es : List (Role × Expr),
    Mirrors f (Expr.evalArgs env es) (Expr.evalArgs env' es)
  | [] => pure _
  | (role, e) :: es => by
    refine (eval he e).bind fun v => ?_
    dsimp only
    split
    · exact (pure _).bind fun _ => (evalArgs he es).bind fun _ => pure _
    · exact (pure _).bind fun _ => (evalArgs he es).bind fun _ => pure _
    · exact (iterate v).bind fun _ => (pure _).bind fun _ => (evalArgs he es).bind fun _ => pure _
    · split
      · refine ite ?_ ?_
        · exact (pure _).bind fun _ => (evalArgs he es).bind fun _ => pure _
        · exact (throw _).bind fun _ => (evalArgs he es).bind fun _ => pure _
      · exact (throw _).bind fun _ => (evalArgs he es).bind fun _ => pure _
termination_by structural es => es

theorem evalChain (he : env.Mirrors f env') (v : Value) : ∀ ops : List (Comparison × Expr),
    Mirrors f (Expr.evalChain env v ops) (Expr.evalChain env' v ops)
  | [] => pure _
  | (_, e) :: ops =>
    (eval he e).bind fun w => (ofAttempt _).bind fun _ => ite (evalChain he w ops) (pure _)
termination_by structural ops => ops

end

/-! ### Assignments -/

theorem check (t : Target) : Mirrors f t.check t.check := by
  unfold Target.check
  split
  · refine (valueOf _).bind fun v => ?_
    split
    · exact pure _
    · exact throw _
  · exact pure _

mutual

theorem bindTarget : ∀ (t : Target) (v : Value), Mirrors f (t.bind v) (t.bind v)
  | .name s, v => assign s v
  | .tuple ts, v => (iterate v).bind fun xs => bindAll ts xs
  | .field r n, v => by
    refine (valueOf r).bind fun w => ?_
    split
    · exact fun _ => rfl
    · exact throw _
termination_by structural t => t

theorem bindAll : ∀ (ts : List Target) (vs : List Value),
    Mirrors f (Target.bindAll ts vs) (Target.bindAll ts vs)
  | [], [] => pure _
  | t :: ts, v :: vs => (bindTarget t v).bind fun _ => bindAll ts vs
  | [], _ :: _ => throw _
  | _ :: _, [] => throw _
termination_by structural ts => ts

end

/-! ### Statements -/

theorem shown (d : Dialect) (v : Value) : Mirrors f (Template.shown d v) (Template.shown d v) := by
  unfold Template.shown
  split
  · exact pure _
  · exact fun _ => rfl
  · exact fun _ => rfl
  · exact pure _

theorem filterBy (he : env.Mirrors f env') (v : Value) (filters : List Filtering) :
    Mirrors f (env.filterBy v filters) (env'.filterBy v filters) := by
  unfold Env.filterBy
  rw [he.dialect]
  exact foldlM (fun v g => (evalArgs he g.2).bind fun a => apply he.host _ g.1 v a) filters v

theorem joinEach {k : Nat → Value → Run σ (Option String)} {l : Nat → Value → Run τ (Option String)}
    (h : ∀ i x, Mirrors f (k i x) (l i x)) :
    ∀ (i : Nat) (xs : List Value), Mirrors f (Template.joinEach k i xs) (Template.joinEach l i xs)
  | _, [] => pure _
  | i, x :: xs => (h i x).bind fun here => (joinEach h (i + 1) xs).bind fun p => by
    cases here <;> exact pure _

theorem passing (he : env.Mirrors f env') (target : Target) (test : Expr) (xs : List Value) :
    Mirrors f (Template.passing env target test xs)
      (Template.passing env' target test xs) := by
  induction xs with
  | nil => exact pure _
  | cons x xs ih =>
    exact (inScope [] ((bindTarget target x).bind fun _ => (eval he test).bind fun _ =>
      pure _)).bind fun _ => ih.bind fun _ => pure _

/-- A loop, by its statements. -/
theorem runEach (he : env.Mirrors f env') (target : Target) (source : Expr) (test : Option Expr)
    (depth : Option Nat) {body otherwise : List Stmt}
    (hbody : Mirrors f (Stmt.runAll env body) (Stmt.runAll env' body))
    (hotherwise : Mirrors f (Stmt.runAll env otherwise) (Stmt.runAll env' otherwise)) :
    Mirrors f ((Stmt.each target source test depth body otherwise).run env)
      ((Stmt.each target source test depth body otherwise).run env') := by
  refine (eval he source).bind fun v => (iterate v).bind fun items => ?_
  have hlooked (id i : Nat) (x : Value) := inScope [("loop", .ref (.loop id))]
    (setPosition id i ((bindTarget target x).bind fun _ => hbody.bind fun text => pure (some text)))
  have hrest (p : String × Bool) : Mirrors f
      (if p.2 = true then Pure.pure p.1 else Run.inScope [] (Stmt.runAll env otherwise))
      (if p.2 = true then Pure.pure p.1 else Run.inScope [] (Stmt.runAll env' otherwise)) :=
    ite (pure _) (inScope [] hotherwise)
  have hloop (items : List Value) (again : Option Nat) :=
    (newLoop (f := f) ⟨items, 0, depth.getD 0, none, again⟩).bind fun id =>
      (joinEach (fun i x => hlooked id i x) 0 items).bind hrest
  dsimp only
  refine ite ?_ ?_
  · cases depth with
    | some k =>
      have hagain (items : List Value) := ((newProcedure (f := f)
        (.loop target test (k + 1) body otherwise)).map some).bind fun again => hloop items again
      cases test with
      | some e => exact (passing he target e items).bind hagain
      | none => exact (pure items).bind hagain
    | none =>
      have hagain (items : List Value) := (pure (f := f) none).bind fun again => hloop items again
      cases test with
      | some e => exact (passing he target e items).bind hagain
      | none => exact (pure items).bind hagain
  · refine (joinEach (fun _ x => ?_) 0 items).bind hrest
    refine inScope [] ((bindTarget target x).bind fun _ => ?_)
    have hpassed (b : Bool) : Mirrors f
        (if b = true then do return some (← Stmt.runAll env body) else Pure.pure none)
        (if b = true then do return some (← Stmt.runAll env' body) else Pure.pure none) :=
      ite (hbody.bind fun _ => pure _) (pure _)
    cases test with
    | some e => exact (eval he e).bind fun _ => (pure _).bind hpassed
    | none => exact (pure _).bind hpassed

mutual

theorem run (he : env.Mirrors f env') : ∀ s : Stmt, Mirrors f (s.run env) (s.run env')
  | .text s => pure s
  | .output e => by
    rw [Stmt.run, Stmt.run, he.dialect]
    exact (eval he e).bind fun v => shown _ v
  | .branch arms otherwise => (runArms he arms).bind fun s => by
    cases s with
    | some s => exact pure s
    | none => exact runAll he otherwise
  | .each target source test depth body otherwise =>
    runEach he target source test depth (runAll he body) (runAll he otherwise)
  | .assign target e => (check target).bind fun _ => (eval he e).bind fun v =>
    (bindTarget target v).bind fun _ => pure _
  | .assignText target filters body => (inScope [] (runAll he body)).bind fun s =>
    (filterBy he _ filters).bind fun v => (bindTarget target v).bind fun _ => pure _
  | .within bindings body => (mapM (fun b : Target × Expr => eval he b.2) bindings).bind fun vs =>
    inScope [] ((bindAll _ vs).bind fun _ => runAll he body)
  | .filtered filters body => (inScope [] (runAll he body)).bind fun s =>
    (filterBy he _ filters).bind fun _ => ofAttempt _
  | .procedure name params body => (newProcedure _).bind fun _ => (assign name _).bind fun _ => pure _
  | .callWith params g args body => (newProcedure _).bind fun _ => (eval he g).bind fun g =>
    (evalArgs he args).bind fun a => (call he g _).bind fun _ => ofAttempt _
  | .elsewhere => throw _
termination_by structural s => s

theorem runAll (he : env.Mirrors f env') : ∀ ss : List Stmt,
    Mirrors f (Stmt.runAll env ss) (Stmt.runAll env' ss)
  | [] => pure _
  | s :: ss => (run he s).bind fun _ => (runAll he ss).bind fun _ => pure _
termination_by structural ss => ss

theorem runArms (he : env.Mirrors f env') : ∀ arms : List (Expr × List Stmt),
    Mirrors f (Stmt.runArms env arms) (Stmt.runArms env' arms)
  | [] => pure _
  | (c, body) :: arms => (eval he c).bind fun _ =>
    ite ((runAll he body).bind fun _ => pure _) (runArms he arms)
termination_by structural arms => arms

end

/-! ### Procedures -/

theorem bindParams (he : env.Mirrors f env') (a : Arguments) :
    ∀ (i : Nat) (params : List (String × Option Expr)),
      Mirrors f (Template.bindParams env a i params) (Template.bindParams env' a i params)
  | _, [] => pure _
  | i, (name, default) :: params => by
    unfold Template.bindParams
    dsimp only
    have hrest (v : Value) := (assign (f := f) name v).bind fun _ => bindParams he a (i + 1) params
    split
    · exact (pure _).bind fun _ => hrest _
    · exact (eval he _).bind fun _ => hrest _
    · exact (pure _).bind fun _ => hrest _

theorem runProcedure (he : env.Mirrors f env') (p : Procedure) (a : Arguments) :
    Mirrors f (p.run env a) (p.run env' a) := by
  unfold Procedure.run
  split
  · exact (ofAttempt _).bind fun rest => onTopOf _ rest ((bindParams he a 0 _).bind fun _ =>
      (runAll he _).bind fun _ => pure _)
  · exact (ofAttempt _).bind fun vs => (iterate _).bind fun items => onTopOf _ []
      ((run he _).bind fun _ => pure _)

theorem invokeAt {host : Host σ} {host' : Host τ} (hh : host.Mirrors f host') (d : Dialect) :
    ∀ (n id : Nat) (a : Arguments),
      Mirrors f (Template.invokeAt d host n id a) (Template.invokeAt d host' n id a)
  | 0, _, _ => throw _
  | n + 1, id, a => by
    refine look fun s => ?_
    dsimp only [Store.mapHost]
    have henv : Env.Mirrors f ⟨d, host, Template.invokeAt d host n⟩
        ⟨d, host', Template.invokeAt d host' n⟩ := ⟨rfl, hh, invokeAt hh d n⟩
    cases s.procedures[id]? with
    | some p => exact runProcedure henv p a s
    | none => rfl

end Mirrors

/-! ### Templates -/

theorem runTemplate_mirrors {host : Host σ} {host' : Host τ} (hh : host.Mirrors f host')
    (d : Dialect) (scope : Scope) (state : τ) (ss : List Stmt) :
    runTemplate d host scope (f state) ss =
      (runTemplate d host' scope state ss).map fun p => (p.1, f p.2) := by
  have henv : (Env.of d host).Mirrors f (Env.of d host') :=
    ⟨rfl, hh, Mirrors.invokeAt hh d callLimit⟩
  have h := Mirrors.runAll henv ss (Store.start (scope ++ globals) state)
  unfold runTemplate
  show (Stmt.runAll (Env.of d host) ss ((Store.start (scope ++ globals) state).mapHost f) >>= fun p =>
    _ : Attempt (String × σ)) = _
  rw [h]
  cases Stmt.runAll (Env.of d host') ss (Store.start (scope ++ globals) state) <;> rfl

/-- **A template does the same for callers that answer alike**: it prints the same text or fails
alike, and the states of the callers afterwards go together. -/
theorem renderWith_mirrors {host : Host σ} {host' : Host τ} (hh : host.Mirrors f host')
    (d : Dialect) (scope : Scope) (state : τ) (s : String) :
    renderWith d host scope (f state) s =
      (renderWith d host' scope state s).map fun p => (p.1, f p.2) := by
  unfold renderWith
  cases parse known d s with
  | error e => rfl
  | ok ss => exact runTemplate_mirrors hh d scope state ss

end SlidePress.Template
