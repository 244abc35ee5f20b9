import SlidePress.Proofs.Attempt
import SlidePress.Template.Eval

namespace SlidePress

/-- The part of a mapping with a name, undefined where there is none. -/
def Entries.part (es : Entries) (name : String) : Value := (es.get? name).getD .undefined

/-- A value that does not refer to something that a running template keeps. -/
def Value.direct : Value → Bool
  | .ref _ => false
  | _ => true

/-- The text a value prints as; null prints as nothing. -/
def Value.printed : Value → String
  | .null => ""
  | v => v.text

/-- A value, or another one where it is missing or null. -/
def Value.orElse (v x : Value) : Value :=
  match v with
  | .undefined => x
  | .null => x
  | v => v

namespace Template

variable {σ α β : Type}

/-- A computation that sees nothing but the state of the caller. -/
abbrev Talk (σ α : Type) := StateT σ (Except Fault) α

/-- The items of a value. -/
def Talk.items : Value → Talk σ (List Value)
  | .again _ _ => StateT.lift (throw .tooDeep)
  | v => StateT.lift (Attempt.ofOption .wrongType v.items?)

/-- What a talk gives for each of some items, counted from `k`, joined. -/
def forEach (g : Nat → Value → Talk σ String) : Nat → List Value → Talk σ String
  | _, [] => return ""
  | k, x :: xs => do
    let a ← g k x
    return a ++ (← forEach g (k + 1) xs)

theorem forEach_pure (f : Value → String) (k : Nat) (xs : List Value) :
    forEach (σ := σ) (fun _ x => return f x) k xs = return String.join (xs.map f) := by
  induction xs generalizing k with
  | nil => rfl
  | cons x xs ih => rw [forEach, ih, List.map_cons, String.join_cons]; rfl

/-- What a talk gives for each of the items of a value, joined. -/
def Talk.overItems (g : Nat → Value → Talk σ String) (v : Value) : Talk σ String := do
  let xs ← Talk.items v
  forEach g 0 xs

/-- A talk that is led only under a condition. -/
def Talk.given (b : Bool) (f : Talk σ String) : Talk σ String := if b then f else pure ""

/-- The texts of the items of a value, joined. -/
def Talk.joined (sep : String) (v : Value) : Talk σ String := do
  let xs ← Talk.items v
  return sep.intercalate (xs.map Value.text)

/-- What is known of the variables and the loops. -/
abbrev View := List Scope → List Loop → Prop

/-- Where a view holds, a run ends as a talk with the caller does, and the view still holds
afterwards. -/
def AmountsTo (w : View) (r : Run σ α) (f : Talk σ α) : Prop :=
  ∀ s, w s.scopes s.loops → match f s.host with
    | .ok (a, h) => ∃ s', r s = .ok (a, s') ∧ w s'.scopes s'.loops ∧ s'.host = h
    | .error e => r s = .error e

/-- These are the variables. -/
def View.sees (scopes : List Scope) : View := fun ss _ => ss = scopes

/-- The value of a variable is known. -/
def View.Knows (w : View) (x : String) (v : Value) : Prop :=
  ∀ ss ls, w ss ls → Store.lookupIn x ss = some v

/-- It is the `i`-th turn of a loop, counted from zero. -/
def View.turn (scopes : List Scope) (id i : Nat) : View := fun ss ls =>
  ss = scopes ∧ ∃ l, ls[id]? = some l ∧ l.position = i

/-- These are the variables, and there is such a loop. -/
def View.keeps (scopes : List Scope) (id : Nat) : View := fun ss ls => ss = scopes ∧ id < ls.length

theorem View.knows_sees {scopes : List Scope} {x : String} {v : Value}
    (h : Store.lookupIn x scopes = some v) : (View.sees scopes).Knows x v := fun _ _ hw =>
  hw ▸ h

theorem View.knows_turn {scopes : List Scope} {id i : Nat} {x : String} {v : Value}
    (h : Store.lookupIn x scopes = some v) : (View.turn scopes id i).Knows x v := fun _ _ hw =>
  hw.1 ▸ h

/-- **Running a template** whose tree amounts to a talk. -/
theorem renderWith_of_amountsTo {d : Dialect} {host : Host σ} {scope : Scope} {state : σ}
    {output : String} {tree : List Stmt} {f : Talk σ String}
    (hp : parse known d output = .ok tree)
    (h : AmountsTo (.sees [[], scope ++ globals]) (Stmt.runAll (Env.of d host) tree) f) :
    renderWith d host scope state output = f state := by
  have hs := h (Store.start (scope ++ globals) state) rfl
  have hhost : (Store.start (scope ++ globals) state).host = state := rfl
  rw [renderWith, Attempt.bind_ok hp, runTemplate]
  rw [hhost] at hs
  cases hf : f state with
  | error e =>
    rw [hf] at hs
    rw [show Stmt.runAll (Env.of d host) tree (Store.start (scope ++ globals) state) = .error e from hs]
    rfl
  | ok p =>
    rw [hf] at hs
    obtain ⟨s', hrun, -, hh⟩ := hs
    have hstate : (Except.ok (p.1, s'.host) : Attempt (String × σ)) = .ok p := by rw [hh]
    exact (Attempt.bind_ok hrun _).trans hstate

namespace AmountsTo

variable {w : View} {r : Run σ α} {f : Talk σ α}

theorem pure (a : α) : AmountsTo (σ := σ) w (Pure.pure a) (Pure.pure a) :=
  fun s hs => ⟨s, rfl, hs, rfl⟩

theorem ofAttempt (t : Attempt α) : AmountsTo (σ := σ) w (Run.ofAttempt t) (StateT.lift t) := by
  intro s hs
  cases t with
  | error e => exact rfl
  | ok a => exact ⟨s, rfl, hs, rfl⟩

theorem congr {g : Talk σ α} (h : AmountsTo w r f) (hfg : f = g) : AmountsTo w r g := hfg ▸ h

theorem bind {k : α → Run σ β} {g : α → Talk σ β} (hr : AmountsTo w r f)
    (hk : ∀ a, AmountsTo w (k a) (g a)) : AmountsTo w (r >>= k) (f >>= g) := by
  intro s hs
  have hrs := hr s hs
  have hfg : (f >>= g) s.host = f s.host >>= fun p => g p.1 p.2 := rfl
  have hrk : (r >>= k) s = r s >>= fun p => k p.1 p.2 := rfl
  rw [hfg, hrk]
  cases hf : f s.host with
  | error e =>
    rw [hf] at hrs
    rw [show r s = .error e from hrs]
    exact rfl
  | ok p =>
    obtain ⟨a, h⟩ := p
    rw [hf] at hrs
    obtain ⟨s', hrs, hs', rfl⟩ := hrs
    rw [hrs]
    exact hk a s' hs'

/-- Behind a known value. -/
theorem known {k : α → Run σ β} {g : Talk σ β} {a : α} (hr : AmountsTo w r (Pure.pure a))
    (hk : AmountsTo w (k a) g) : AmountsTo w (r >>= k) g := by
  intro s hs
  obtain ⟨s', hrs, hs', hh⟩ := hr s hs
  have hrk : (r >>= k) s = r s >>= fun p => k p.1 p.2 := rfl
  rw [hrk, hrs, ← hh]
  exact hk s' hs'

theorem map {g : α → β} (hr : AmountsTo w r f) : AmountsTo w (g <$> r) (g <$> f) := by
  rw [← bind_pure_comp, ← bind_pure_comp]
  exact hr.bind fun a => .pure _

/-- Behind a value that is made of what the talk comes to. -/
theorem bind_map {γ : Type} {h : γ → α} {f : Talk σ γ} {k : α → Run σ β} {g : γ → Talk σ β}
    (hr : AmountsTo w r (h <$> f)) (hk : ∀ c, AmountsTo w (k (h c)) (g c)) :
    AmountsTo w (r >>= k) (f >>= g) := by
  intro s hs
  have hrs := hr s hs
  have hmap : (h <$> f) s.host = f s.host >>= fun p => .ok (h p.1, p.2) := rfl
  have hfg : (f >>= g) s.host = f s.host >>= fun p => g p.1 p.2 := rfl
  have hrk : (r >>= k) s = r s >>= fun p => k p.1 p.2 := rfl
  rw [hmap] at hrs
  rw [hfg, hrk]
  cases hf : f s.host with
  | error e =>
    rw [hf] at hrs
    rw [show r s = .error e from hrs]
    exact rfl
  | ok p =>
    rw [hf] at hrs
    obtain ⟨s', hrs, hs', hh⟩ := hrs
    rw [hrs]
    have := hk p.1 s' hs'
    rw [hh] at this
    exact this

/-! ### Expressions -/

variable {env : Env σ}

theorem const (v : Value) : AmountsTo w (Expr.eval env (.const v)) (Pure.pure v) := .pure v

theorem name {x : String} {v : Value} (h : w.Knows x v) :
    AmountsTo w (Expr.eval env (.name x)) (Pure.pure v) := by
  intro s hs
  refine ⟨s, ?_, hs, rfl⟩
  show Run.valueOf x s = _
  rw [Run.valueOf, Store.lookup?, h _ _ hs]
  rfl

theorem part {e : Expr} {es : Entries} {x : String} (hd : env.dialect.keysOnly = true)
    (h : AmountsTo w (e.eval env) (Pure.pure (.map es))) :
    AmountsTo w (Expr.eval env (.attr e x)) (Pure.pure (es.part x)) :=
  h.known fun s hs => ⟨s, namedPart_map env.dialect env.host es x s hd, hs, rfl⟩

/-- An operation of a helper object. -/
theorem operation {e : Expr} {object x : String}
    (h : AmountsTo w (e.eval env) (Pure.pure (.ref (.helper object))))
    (hx : (env.host.operations object).contains x = true) :
    AmountsTo w (Expr.eval env (.attr e x)) (Pure.pure (.method (.ref (.helper object)) x)) := by
  refine h.known fun s hs => ⟨s, ?_, hs, rfl⟩
  simp only [namedPart, nativePart?, hx, if_true]
  rfl

theorem args_nil : AmountsTo w (Expr.evalArgs env []) (Pure.pure ⟨[], []⟩) := .pure _

theorem args_cons {e : Expr} {es : List (Role × Expr)} {v : Value} {vs : List Value}
    (he : AmountsTo w (e.eval env) (Pure.pure v))
    (hes : AmountsTo w (Expr.evalArgs env es) (Pure.pure ⟨vs, []⟩)) :
    AmountsTo w (Expr.evalArgs env ((.positional, e) :: es)) (Pure.pure ⟨v :: vs, []⟩) :=
  he.known (known (.pure _) (hes.known (.pure _)))

/-- A call of a helper object is put to the caller. -/
theorem call {e : Expr} {args : List (Role × Expr)} {object x : String} {a : Arguments}
    (he : AmountsTo w (e.eval env) (Pure.pure (.method (.ref (.helper object)) x)))
    (ha : AmountsTo w (Expr.evalArgs env args) (Pure.pure a)) :
    AmountsTo w (Expr.eval env (.call e args)) (env.host.call object x a) := by
  refine he.known (ha.known fun s hs => ?_)
  have hcall : env.call (.method (.ref (.helper object)) x) a s =
      env.host.call object x a s.host >>= fun p => .ok (p.1, { s with host := p.2 }) := rfl
  rw [hcall]
  cases env.host.call object x a s.host with
  | error e => exact rfl
  | ok p => exact ⟨_, rfl, hs, rfl⟩

theorem filter {e : Expr} {n : String} {args : List (Role × Expr)} {v : Value} {a : Arguments}
    {g : Talk σ Value}
    (he : AmountsTo w (e.eval env) (Pure.pure v))
    (ha : AmountsTo w (Expr.evalArgs env args) (Pure.pure a))
    (hg : AmountsTo w (Filter.apply env.dialect env.host n v a) g) :
    AmountsTo w (Expr.eval env (.filter e n args)) g :=
  he.known (ha.known hg)

theorem choose {c a b : Expr} {v : Value} {g h : Talk σ Value}
    (hc : AmountsTo w (c.eval env) (Pure.pure v)) (ha : v.truthy = true → AmountsTo w (a.eval env) g)
    (hb : v.truthy = false → AmountsTo w (b.eval env) h) :
    AmountsTo w (Expr.eval env (.choose c a b)) (if v.truthy then g else h) := by
  refine hc.known ?_
  cases hv : v.truthy with
  | true => exact ha hv
  | false => exact hb hv

theorem either {a b : Expr} {v x : Value}
    (ha : AmountsTo w (a.eval env) (Pure.pure v)) (hb : AmountsTo w (b.eval env) (Pure.pure x)) :
    AmountsTo w (Expr.eval env (.either a b)) (Pure.pure (if v.truthy then v else x)) := by
  refine ha.known ?_
  cases hv : v.truthy with
  | true => exact .pure _
  | false => exact hb

theorem pair {a b : Expr} {v x : Value} (ha : AmountsTo w (a.eval env) (Pure.pure v))
    (hb : AmountsTo w (b.eval env) (Pure.pure x)) :
    AmountsTo w (Expr.eval env (.list [a, b])) (Pure.pure (.list [v, x])) :=
  known (ha.known (known (hb.known (.pure [x])) (.pure [v, x]))) (.pure _)

theorem pairs_nil : AmountsTo w (Expr.evalPairs env []) (Pure.pure []) := .pure _

theorem pairs_cons {a e : Expr} {es : List (Expr × Expr)} {k v : Value} {ps : List (Value × Value)}
    (ha : AmountsTo w (a.eval env) (Pure.pure k)) (he : AmountsTo w (e.eval env) (Pure.pure v))
    (hes : AmountsTo w (Expr.evalPairs env es) (Pure.pure ps)) :
    AmountsTo w (Expr.evalPairs env ((a, e) :: es)) (Pure.pure ((k, v) :: ps)) :=
  ha.known (he.known (hes.known (.pure _)))

theorem dict {es : List (Expr × Expr)} {ps : List (Value × Value)}
    (hes : AmountsTo w (Expr.evalPairs env es) (Pure.pure ps))
    (hps : ps.all (fun p => p.1.hashable) = true) :
    AmountsTo w (Expr.eval env (.dict es)) (Pure.pure (.map (Entries.ofPairs ps))) := by
  refine hes.known ?_
  rw [if_pos hps]
  exact .pure _

/-! ### Statements -/

theorem text (s : String) : AmountsTo w (Stmt.run env (.text s)) (Pure.pure s) := .pure s

theorem output {e : Expr} {g : Talk σ String} (he : AmountsTo w (e.eval env) (Value.str <$> g)) :
    AmountsTo w (Stmt.run env (.output e)) g := by
  have h : AmountsTo w (Stmt.run env (.output e)) (g >>= Pure.pure) :=
    he.bind_map fun a => .pure a
  simpa using h

theorem outputValue {e : Expr} {v : Value} (hd : env.dialect = .slide)
    (he : AmountsTo w (e.eval env) (Pure.pure v)) (hv : v.direct = true) :
    AmountsTo w (Stmt.run env (.output e)) (Pure.pure v.printed) := by
  refine he.known ?_
  rw [hd]
  cases v with
  | ref _ => cases hv
  | _ => exact .pure _

theorem nil : AmountsTo w (Stmt.runAll env []) (Pure.pure "") := .pure ""

theorem cons {s : Stmt} {ss : List Stmt} {f g : Talk σ String}
    (hs : AmountsTo w (s.run env) f) (hss : AmountsTo w (Stmt.runAll env ss) g) :
    AmountsTo w (Stmt.runAll env (s :: ss)) (do let a ← f; return a ++ (← g)) :=
  hs.bind fun a => hss.bind fun b => .pure (a ++ b)

theorem branch {c : Expr} {body otherwise : List Stmt} {v : Value} {f g : Talk σ String}
    (hc : AmountsTo w (c.eval env) (Pure.pure v))
    (hb : v.truthy = true → AmountsTo w (Stmt.runAll env body) f)
    (ho : v.truthy = false → AmountsTo w (Stmt.runAll env otherwise) g) :
    AmountsTo w (Stmt.run env (.branch [(c, body)] otherwise)) (if v.truthy then f else g) := by
  cases hv : v.truthy with
  | true =>
    have harms : AmountsTo w (Stmt.runArms env [(c, body)]) (some <$> f) := by
      refine hc.known ?_
      rw [hv]
      have h := (hb hv).bind (k := fun a => Pure.pure (some a)) fun a => .pure (some a)
      rw [bind_pure_comp] at h
      exact h
    have h : AmountsTo w (Stmt.run env (.branch [(c, body)] otherwise)) (f >>= Pure.pure) :=
      harms.bind_map fun a => .pure a
    rw [bind_pure_comp, id_map'] at h
    exact h
  | false =>
    have harms : AmountsTo w (Stmt.runArms env [(c, body)]) (Pure.pure none) := by
      refine hc.known ?_
      rw [hv]
      exact .pure none
    exact harms.known (ho hv)

/-- Something that is printed if a value counts as true. -/
theorem optional {c : Expr} {body : List Stmt} {v : Value} {f : Talk σ String}
    (hc : AmountsTo w (c.eval env) (Pure.pure v))
    (hb : v.truthy = true → AmountsTo w (Stmt.runAll env body) f) :
    AmountsTo w (Stmt.run env (.branch [(c, body)] [])) (Talk.given v.truthy f) :=
  .branch hc hb fun _ => .nil

/-! ### Loops -/

theorem joinEach {f : Nat → Value → Run σ (Option String)} {g : Nat → Value → Talk σ String}
    {xs : List Value} {k : Nat}
    (h : ∀ i x, xs[i]? = some x → AmountsTo w (f (k + i) x) (some <$> g (k + i) x)) :
    AmountsTo w (Template.joinEach f k xs) ((·, !xs.isEmpty) <$> forEach g k xs) := by
  induction xs generalizing k with
  | nil => exact .pure _
  | cons x xs ih =>
    have hrest := ih (k := k + 1) fun i y hy => by
      rw [Nat.add_assoc, Nat.add_comm 1 i]
      exact h (i + 1) y hy
    have htalk : (·, true) <$> forEach g k (x :: xs) =
        g k x >>= fun a => forEach g (k + 1) xs >>= fun b => Pure.pure (a ++ b, true) := by
      simp [forEach]
    show AmountsTo w _ ((·, true) <$> forEach g k (x :: xs))
    rw [htalk]
    exact (h 0 x rfl).bind_map fun a => hrest.bind_map fun b => .pure (a ++ b, true)

/-- The scope of a loop's turn. -/
theorem inScope {x : String} {v : Value} {scopes : List Scope} {r : Run σ β} {f : Talk σ β}
    (h : AmountsTo (.sees ([(x, v)] :: scopes)) r f) :
    AmountsTo (.sees scopes) (Run.inScope [] do
      Target.bind (.name x) v
      r) f := by
  intro s hs
  have hr := h { s with scopes := [(x, v)] :: s.scopes } (congrArg _ hs)
  have hrun : Run.inScope [] (do
        Target.bind (.name x) v
        r) s = (r { s with scopes := [(x, v)] :: s.scopes } >>= fun p =>
      .ok (p.1, { p.2 with scopes := p.2.scopes.tail })) := rfl
  rw [hrun]
  cases hf : f s.host with
  | error e =>
    rw [hf] at hr
    rw [show r _ = .error e from hr]
    rfl
  | ok p =>
    rw [hf] at hr
    obtain ⟨s', hr, hs', hh⟩ := hr
    rw [hr]
    exact ⟨_, rfl, congrArg List.tail hs', hh⟩

/-- Behind the items of a value. -/
theorem iterate {v : Value} {k : List Value → Run σ β} {g : List Value → Talk σ β}
    (hv : v.direct = true) (hk : ∀ xs, v.items? = some xs → AmountsTo w (k xs) (g xs)) :
    AmountsTo w (Run.iterate v >>= k)
      (Talk.items v >>= g) := by
  have hfails (f : Fault) (g : List Value → Talk σ β) : AmountsTo w
      (Run.ofAttempt (.error f : Attempt (List Value)) >>= k) (StateT.lift (.error f) >>= g) :=
    fun s _ => rfl
  cases v with
  | ref _ => cases hv
  | again _ _ => exact hfails .tooDeep g
  | null | bool _ | int _ | float _ | date _ | timestamp _ | method _ _ =>
    exact hfails .wrongType g
  | _ => exact (ofAttempt (.ok _)).known (hk _ rfl)

/-- The turns of a loop, joined. -/
theorem turns {f : Nat → Value → Run σ (Option String)} {g : Nat → Value → Talk σ String}
    {xs : List Value} {otherwise : Run σ String} (ho : AmountsTo w otherwise (Pure.pure ""))
    (h : ∀ i x, xs[i]? = some x → AmountsTo w (f i x) (some <$> g i x)) :
    AmountsTo w (do
      let (s, any) ← Template.joinEach f 0 xs
      if any then return s else otherwise) (forEach g 0 xs) := by
  have hjoin := joinEach (k := 0) fun i x hx => by
    rw [Nat.zero_add]
    exact h i x hx
  cases xs with
  | nil => exact hjoin.known ho
  | cons x xs =>
    rw [← bind_pure (forEach g 0 (x :: xs))]
    exact hjoin.bind_map fun b => .pure b

theorem each {x : String} {source : Expr} {body : List Stmt} {v : Value} {scopes : List Scope}
    {g : Value → Talk σ String} (hv : v.direct = true)
    (hloop : Stmt.bodyMentions "loop" body = false)
    (hs : AmountsTo (.sees scopes) (source.eval env) (Pure.pure v))
    (hg : ∀ xs, v.items? = some xs → ∀ y ∈ xs,
      AmountsTo (.sees ([(x, y)] :: scopes)) (Stmt.runAll env body) (g y)) :
    AmountsTo (.sees scopes) (Stmt.run env (.each (.name x) source none none body []))
      (Talk.overItems (fun _ => g) v) := by
  have hrun : Stmt.run env (.each (.name x) source none none body []) = (do
      let items ← Run.iterate (← source.eval env)
      let (s, any) ← Template.joinEach (fun _ y => Run.inScope [] do
          Target.bind (.name x) y
          return some (← Stmt.runAll env body)) 0 items
      if any then return s else Run.inScope [] (Stmt.runAll env [])) := by
    rw [Stmt.run, hloop]
    rfl
  rw [hrun]
  refine hs.known (iterate hv fun xs hxs => turns (fun s hs => ⟨s, rfl, hs, rfl⟩) fun i y hy => ?_)
  refine inScope ?_
  have := (hg xs hxs y (List.mem_of_getElem? hy)).bind (k := fun a => Pure.pure (some a)) fun a => .pure (some a)
  rwa [bind_pure_comp] at this

/-- The scope of a turn in a loop that knows how far it is. -/
theorem inTurn {x : String} {v : Value} {scopes : List Scope} {id i : Nat} {r : Run σ β}
    {f : Talk σ β} (h : AmountsTo (.turn ([(x, v), ("loop", .ref (.loop id))] :: scopes) id i) r f) :
    AmountsTo (.keeps scopes id) (Run.inScope [("loop", .ref (.loop id))] do
      let l := (← get).loops.getD id default
      Run.setLoop id { l with position := i }
      Target.bind (.name x) v
      r) f := by
  intro s hs
  let l : Loop := { s.loops.getD id default with position := i }
  let s' : Store σ := { s with
    scopes := [(x, v), ("loop", .ref (.loop id))] :: s.scopes, loops := s.loops.set id l }
  have hr := h s' ⟨congrArg _ hs.1, l, List.getElem?_set_self hs.2, rfl⟩
  have hrun : Run.inScope [("loop", .ref (.loop id))] (do
      let l := (← get).loops.getD id default
      Run.setLoop id { l with position := i }
      Target.bind (.name x) v
      r) s = (r s' >>= fun p => .ok (p.1, { p.2 with scopes := p.2.scopes.tail })) := rfl
  rw [hrun]
  cases hf : f s.host with
  | error e =>
    rw [hf] at hr
    rw [show r s' = .error e from hr]
    rfl
  | ok p =>
    rw [hf] at hr
    obtain ⟨s'', hr, ⟨hs'', l', hl', -⟩, hh⟩ := hr
    rw [hr]
    exact ⟨_, rfl, ⟨congrArg List.tail hs'', (List.getElem?_eq_some_iff.1 hl').1⟩, hh⟩

/-- A loop that knows how far it is. -/
theorem eachNumbered {x : String} {source : Expr} {body : List Stmt} {v : Value}
    {scopes : List Scope} {g : Nat → Value → Talk σ String} (hv : v.direct = true)
    (hloop : Stmt.bodyMentions "loop" body = true)
    (hs : AmountsTo (.sees scopes) (source.eval env) (Pure.pure v))
    (hg : ∀ xs, v.items? = some xs → ∀ id i y, xs[i]? = some y →
      AmountsTo (.turn ([(x, y), ("loop", .ref (.loop id))] :: scopes) id i)
        (Stmt.runAll env body) (g i y)) :
    AmountsTo (.sees scopes) (Stmt.run env (.each (.name x) source none none body []))
      (Talk.overItems g v) := by
  have hrun : Stmt.run env (.each (.name x) source none none body []) = (do
      let items ← Run.iterate (← source.eval env)
      let id ← Run.newLoop ⟨items, 0, 0, none, none⟩
      let (s, any) ← Template.joinEach (fun i y => Run.inScope [("loop", .ref (.loop id))] do
          let l := (← get).loops.getD id default
          Run.setLoop id { l with position := i }
          Target.bind (.name x) y
          return some (← Stmt.runAll env body)) 0 items
      if any then return s else Run.inScope [] (Stmt.runAll env [])) := by
    rw [Stmt.run, hloop]
    rfl
  rw [hrun]
  refine hs.known (iterate hv fun xs hxs s hs => ?_)
  have hrest : AmountsTo (.keeps scopes s.loops.length) (Run.inScope [] (Stmt.runAll env []))
    (Pure.pure "") := fun s hs => ⟨s, rfl, hs, rfl⟩
  have hturns := turns hrest fun i y hy => inTurn (by
      have := (hg xs hxs s.loops.length i y hy).bind (k := fun a => Pure.pure (some a))
        fun a => .pure (some a)
      rwa [bind_pure_comp] at this)
  have hall := hturns { s with loops := s.loops ++ [⟨xs, 0, 0, none, none⟩] } ⟨hs, by simp⟩
  dsimp only at hall
  cases hf : forEach g 0 xs s.host with
  | error e =>
    rw [hf] at hall
    exact hall
  | ok p =>
    rw [hf] at hall
    obtain ⟨s', hrun, hs', hh⟩ := hall
    exact ⟨s', hrun, hs'.1, hh⟩

/-- How far a loop is, counted from one. -/
theorem index {scopes : List Scope} {id i : Nat}
    (h : Store.lookupIn "loop" scopes = some (.ref (.loop id))) :
    AmountsTo (.turn scopes id i) (Expr.eval env (.attr (.name "loop") "index"))
      (Pure.pure (.int (i + 1 : Nat))) := by
  refine (name fun ss ls hw => by rw [hw.1]; exact h).known fun s hs => ?_
  obtain ⟨hscopes, l, hl, hi⟩ := hs
  refine ⟨s, ?_, ⟨hscopes, l, hl, hi⟩, rfl⟩
  have hpart : namedPart env.dialect env.host (.ref (.loop id)) "index" s =
      .ok (((s.loops.getD id default).part? "index").getD .undefined, s) := rfl
  rw [hpart, List.getD_eq_getElem?_getD, hl, ← hi]
  rfl

/-! ### Filters -/

theorem orDefault (host : Host σ) (v x : Value) :
    AmountsTo (σ := σ) w (Filter.apply .slide host "default" v ⟨[x], []⟩)
      (Pure.pure (v.orElse x)) := by
  intro s hs
  refine ⟨s, ?_, hs, rfl⟩
  cases v <;> rfl

theorem trim (host : Host σ) (v : Value) :
    AmountsTo (σ := σ) w (Filter.apply .slide host "trim" v ⟨[], []⟩)
      (Pure.pure (Filter.mapText Text.stripChars v)) := by
  intro s hs
  refine ⟨s, ?_, hs, rfl⟩
  rfl

theorem escape (host : Host σ) (v : Value) :
    AmountsTo (σ := σ) w (Filter.apply .slide host "escape" v ⟨[], []⟩)
      (Pure.pure v.escaped) := by
  intro s hs
  refine ⟨s, ?_, hs, rfl⟩
  rfl

theorem join (host : Host σ) {v : Value} (sep : String) (hv : v.direct = true) :
    AmountsTo (σ := σ) w (Filter.apply .slide host "join" v ⟨[.str sep], []⟩)
      (Value.str <$> Talk.joined sep v) := by
  have hrun : Filter.apply .slide host "join" v ⟨[.str sep], []⟩ = (do
      let xs ← Run.iterate v
      let texts ← xs.mapM fun x => (Pure.pure x.text : Run σ String)
      return .str (sep.intercalate texts)) := rfl
  rw [hrun, Talk.joined, map_bind]
  refine iterate hv fun xs _ => ?_
  rw [List.mapM_pure, pure_bind, map_pure]
  exact .pure _

/-- What counts as true among some items. -/
theorem collect_truthy (host : Host σ) (s : Store σ) (xs : List Value) :
    Filter.collect (fun x => do
        let y ← Filter.follow .slide host [] x
        let passed ← (Pure.pure y.truthy : Run σ Bool)
        return if passed == true then [x] else []) xs s =
      .ok (⟨xs.filter Value.truthy, none⟩, s) := by
  induction xs with
  | nil => rfl
  | cons x xs ih =>
    rw [List.filter_cons]
    refine (Attempt.bind_ok ih fun p =>
      .ok ({ p.1 with items := (if x.truthy == true then [x] else []) ++ p.1.items }, p.2)).trans ?_
    cases x.truthy <;> rfl

theorem select_list (host : Host σ) (s : Store σ) {vs : List Value} (hvs : vs ≠ []) :
    Filter.apply .slide host "select" (.list vs) ⟨[], []⟩ s =
      .ok (.ref (.stream s.streams.length),
        { s with streams := s.streams ++ [⟨vs.filter Value.truthy, none⟩] }) := by
  have htruthy : (Value.list vs).truthy = true := by simpa [Value.truthy] using hvs
  have hselect : Filter.apply .slide host "select" (.list vs) ⟨[], []⟩ =
      Filter.select .slide host true false (.list vs) ⟨[], []⟩ := rfl
  rw [hselect, Filter.select, htruthy]
  exact Attempt.bind_ok (collect_truthy host s vs) _

theorem join_stream (host : Host σ) (s : Store σ) (xs : List Value) (sep : String) :
    Filter.apply .slide host "join" (.ref (.stream s.streams.length)) ⟨[.str sep], []⟩
        { s with streams := s.streams ++ [⟨xs, none⟩] } =
      .ok (.str (sep.intercalate (xs.map Value.text)),
        { s with streams := s.streams ++ [⟨[], none⟩] }) := by
  have hget : (s.streams ++ [Once.mk xs none]).getD s.streams.length default = ⟨xs, none⟩ := by
    simp [List.getD_eq_getElem?_getD]
  have hset : (s.streams ++ [Once.mk xs none]).set s.streams.length ⟨[], none⟩ =
      s.streams ++ [⟨[], none⟩] := by
    simp
  have hiterate : Run.iterate (.ref (.stream s.streams.length))
      { s with streams := s.streams ++ [⟨xs, none⟩] } =
        .ok (xs, { s with streams := s.streams ++ [⟨[], none⟩] }) := by
    simp only [Run.iterate, get, getThe, MonadStateOf.get, StateT.get, Bind.bind, StateT.bind,
      Except.bind, Pure.pure, Except.pure, hget, hset]
    rfl
  refine (Attempt.bind_ok hiterate _).trans ?_
  have htexts : (xs.mapM fun x => (Pure.pure x.text : Run σ String)) = Pure.pure (xs.map Value.text) :=
    List.mapM_pure
  exact Attempt.bind_ok (congrFun htexts _) _

/-- What counts as true among the items of a list, joined. -/
theorem selectJoin {e : Expr} {vs : List Value} {sep : String} (hd : env.dialect = .slide)
    (hvs : vs ≠ []) (he : AmountsTo w (e.eval env) (Pure.pure (.list vs))) :
    AmountsTo w (Expr.eval env
        (.filter (.filter e "select" []) "join" [(.positional, .const (.str sep))]))
      (Pure.pure (.str (sep.intercalate ((vs.filter Value.truthy).map Value.text)))) := by
  intro s hs
  obtain ⟨s', hes, hs', hh⟩ := he s hs
  refine ⟨{ s' with streams := s'.streams ++ [⟨[], none⟩] }, ?_, hs', hh⟩
  have hselect : Expr.eval env (.filter e "select" []) s = .ok _ :=
    (Attempt.bind_ok hes _).trans (hd ▸ select_list env.host s' hvs)
  exact (Attempt.bind_ok hselect _).trans (hd ▸ join_stream env.host s' _ sep)

/-- A text filled in. -/
theorem percent {e : Expr} {s : String} {v : Value} (he : AmountsTo w (e.eval env) (Pure.pure v)) :
    AmountsTo w (Expr.eval env (.binary .mod (.const (.str s)) e))
      (Value.str <$> StateT.lift (Value.percent s v)) := by
  have hmod : StateT.lift (σ := σ) (Value.mod (.str s) v) =
      Value.str <$> StateT.lift (Value.percent s v) := by
    have : Value.mod (.str s) v = Value.percent s v >>= fun t => .ok (.str t) := rfl
    rw [this]
    cases Value.percent s v <;> rfl
  rw [← hmod]
  exact (const (.str s)).known (he.known (ofAttempt _))

theorem window_nil (cs : List Char) : TextMethod.window cs [] = .ok (some (cs, 0)) := by
  have hlength : ¬ (cs.length : Int) < 0 := by omega
  simp [TextMethod.window, Value.boundOf?, Bind.bind, Except.bind, Pure.pure, Except.pure, hlength]

theorem call_startsWith (s t : String) : TextMethod.call "startswith" s ⟨[.str t], []⟩ =
    .ok (.bool (Text.startsWith t.toList s.toList)) := by
  have hcall : TextMethod.call "startswith" s ⟨[.str t], []⟩ =
      TextMethod.bordersOn Text.startsWith s.toList [.str t] := rfl
  rw [hcall]
  refine (Attempt.bind_ok (window_nil s.toList) _).trans ?_
  simp [Pure.pure, Except.pure]

/-- Whether a text begins with another. -/
theorem startsWith {e : Expr} {s t : String} (he : AmountsTo w (e.eval env) (Pure.pure (.str s))) :
    AmountsTo w (Expr.eval env (.call (.attr e "startswith") [(.positional, .const (.str t))]))
      (Pure.pure (.bool (Text.startsWith t.toList s.toList))) := by
  have hmethod : AmountsTo w (Expr.eval env (.attr e "startswith"))
      (Pure.pure (.method (.str s) "startswith")) := he.known (.pure _)
  refine hmethod.known ((args_cons (const _) args_nil).known ?_)
  have hcall : env.call (.method (.str s) "startswith") ⟨[.str t], []⟩ =
      Run.ofAttempt (TextMethod.call "startswith" s ⟨[.str t], []⟩) := rfl
  rw [hcall, call_startsWith]
  exact ofAttempt _

end AmountsTo
end Template
end SlidePress
