import SlidePress.Proofs.Schema.Depth

/-! # What compiling comes to

A declaration can be compiled if it has an outline and all declarations in it can be compiled. It
fails with a fault of its own (`Flawed`) or with that of the first declaration in it that fails
(`Broken`). A declaration in which declarations are nested without end is refused as well, and that
is all that can happen (`compile_eq_ok_iff`, `compile_eq_error_iff`). -/

namespace SlidePress.Schema

/-! ### Outcomes -/

/-- The declaration at a place has some entries, among them no alternatives, and a type. -/
structure Plainly (p : Place) (es : Entries) (type : Value) : Prop where
  entries : p.whole.value = .map es
  noOneOf : (p.whole.keyword es "oneOf").value.truthy = false
  type : (es.get? "type").getD (.str "object") = type

/-- **A declaration has a fault of its own**, whatever the declarations in it are. -/
inductive Flawed (p : Place) : Fault → Prop
  /-- It is no mapping. -/
  | shape (h : ∀ es, p.whole.value ≠ .map es) : Flawed p .noAttribute
  /-- There are alternatives, but they cannot be gone through. -/
  | oneOf {es : Entries} (hentries : p.whole.value = .map es)
      (hsome : (p.whole.keyword es "oneOf").value.truthy = true)
      (h : ∀ xs, itemsOf (p.whole.keyword es "oneOf").value ≠ .ok xs) : Flawed p .wrongType
  /-- The type cannot be looked up. -/
  | type {es : Entries} {type : Value} (hplain : Plainly p es type)
      (h : type.hashable = false) : Flawed p .wrongType
  /-- The expression for a string is neither a text nor bytes. -/
  | pattern {es : Entries} (hplain : Plainly p es (.str "string"))
      (hfree : (p.whole.keyword es "enum").value.truthy = false)
      (hsome : (p.whole.keyword es "pattern").value.truthy = true)
      (htext : ∀ s, (p.whole.keyword es "pattern").value ≠ .str s)
      (hbytes : ∀ bs, (p.whole.keyword es "pattern").value ≠ .bytes bs) : Flawed p .wrongType
  /-- The expression for a string is a text that cannot be parsed. -/
  | text {es : Entries} {s : String} {f : Fault} (hplain : Plainly p es (.str "string"))
      (hfree : (p.whole.keyword es "enum").value.truthy = false)
      (hpattern : (p.whole.keyword es "pattern").value = .str s) (hsome : s.isEmpty = false)
      (h : Pattern.parse s = .error f) : Flawed p f
  /-- The expression for a string consists of bytes that cannot be parsed. -/
  | bytes {es : Entries} {bs : List UInt8} {f : Fault} (hplain : Plainly p es (.str "string"))
      (hfree : (p.whole.keyword es "enum").value.truthy = false)
      (hpattern : (p.whole.keyword es "pattern").value = .bytes bs) (hsome : bs.isEmpty = false)
      (h : Pattern.parseBytes bs = .error f) : Flawed p f
  /-- An object has properties, but what it requires cannot be gone through. -/
  | required {es : Entries} (hplain : Plainly p es (.str "object"))
      (hdeclared : (p.whole.keyword es "properties").value ≠ .null)
      (hsome : (p.whole.keyword es "required").value.truthy = true)
      (h : ∀ xs, itemsOf (p.whole.keyword es "required").value ≠ .ok xs) : Flawed p .wrongType
  /-- An object has properties, but among what it requires is something that cannot be looked up. -/
  | requiredKey {es : Entries} {xs : List Value} {x : Value}
      (hplain : Plainly p es (.str "object"))
      (hdeclared : (p.whole.keyword es "properties").value ≠ .null)
      (hsome : (p.whole.keyword es "required").value.truthy = true)
      (hitems : itemsOf (p.whole.keyword es "required").value = .ok xs) (hx : x ∈ xs)
      (h : x.hashable = false) : Flawed p .wrongType
  /-- The properties of an object are no mapping. -/
  | properties {es : Entries} {ks : List Value} (hplain : Plainly p es (.str "object"))
      (hdeclared : (p.whole.keyword es "properties").value ≠ .null)
      (hrequired : requiredOf (p.whole.keyword es "required").value = .ok ks)
      (h : ∀ ps, (p.whole.keyword es "properties").value ≠ .map ps) : Flawed p .noAttribute

/-- **A declaration can be compiled**, with all the declarations in it. -/
inductive Sound : Place → Prop
  | intro {p : Place} {o : Outline} (ho : outline p = .ok o) (hparts : ∀ q ∈ o.parts, Sound q) :
      Sound p

/-- **A declaration fails**: it has a fault of its own, or one in it fails, and all before that one
can be compiled. -/
inductive Broken : Place → Fault → Prop
  | here {p : Place} {f : Fault} (h : Flawed p f) : Broken p f
  | inside {p q : Place} {o : Outline} {before after : List Place} {f : Fault}
      (ho : outline p = .ok o) (hparts : o.parts = before ++ q :: after)
      (hbefore : ∀ b ∈ before, Sound b) (hq : Broken q f) : Broken p f

/-- **Declarations are nested without end**: among those at some places, each one has another of
them in it, behind declarations that can all be compiled. -/
def Endless (p : Place) : Prop :=
  ∃ E : Place → Prop, E p ∧ ∀ q, E q → ∃ o before r after, outline q = .ok o ∧
    o.parts = before ++ r :: after ∧ (∀ b ∈ before, Sound b) ∧ E r

/-! ### Faults of an outline -/

theorem declaration_eq_error_iff {v : Value} {f : Fault} :
    declaration v = .error f ↔ (∀ es, v ≠ .map es) ∧ f = .noAttribute := by
  cases v <;> simp [declaration, eq_comm]

theorem itemsOf_eq_error_iff {v : Value} {f : Fault} :
    itemsOf v = .error f ↔ (∀ xs, itemsOf v ≠ .ok xs) ∧ f = .wrongType := by
  cases v <;> simp [itemsOf, eq_comm]

theorem requiredOf_eq_error_iff {v : Value} {f : Fault} :
    requiredOf v = .error f ↔ f = .wrongType ∧ v.truthy = true ∧
      ((∀ xs, itemsOf v ≠ .ok xs) ∨ ∃ xs, itemsOf v = .ok xs ∧ ∃ x ∈ xs, x.hashable = false) := by
  unfold requiredOf
  by_cases ht : v.truthy = true
  · rw [if_pos ht, Attempt.bind_eq_error, itemsOf_eq_error_iff]
    constructor
    · rintro (⟨hno, hf⟩ | ⟨xs, hxs, h⟩)
      · exact ⟨hf, ht, Or.inl hno⟩
      · split_ifs at h with hall
        · cases h
        obtain ⟨x, hx, hh⟩ : ∃ x ∈ xs, x.hashable = false := by simpa using hall
        exact ⟨(Except.error.inj h).symm, ht, Or.inr ⟨xs, hxs, x, hx, hh⟩⟩
    · rintro ⟨rfl, -, hno | ⟨xs, hxs, x, hx, hh⟩⟩
      · exact Or.inl ⟨hno, rfl⟩
      · refine Or.inr ⟨xs, hxs, if_neg fun hall => ?_⟩
        rw [List.all_eq_true.1 hall x hx] at hh
        cases hh
  · rw [if_neg ht]
    exact iff_of_false (fun h => by cases h) fun h => ht h.2.1

theorem textRule_eq_error_iff {allowed pattern : Value} {f : Fault} :
    textRule allowed pattern = .error f ↔ allowed.truthy = false ∧
      ((∃ s, pattern = .str s ∧ s.isEmpty = false ∧ Pattern.parse s = .error f) ∨
        (∃ bs, pattern = .bytes bs ∧ bs.isEmpty = false ∧ Pattern.parseBytes bs = .error f) ∨
          f = .wrongType ∧ pattern.truthy = true ∧ (∀ s, pattern ≠ .str s) ∧
            ∀ bs, pattern ≠ .bytes bs) := by
  unfold textRule
  by_cases ht : allowed.truthy = true
  · rw [if_pos ht]
    exact iff_of_false (fun h => by cases h) fun h => by simp [ht] at h
  rw [if_neg ht]
  rw [and_iff_right (Bool.eq_false_of_not_eq_true ht)]
  cases pattern with
  | str s =>
    by_cases hs : s = ""
    · simp [hs, Value.truthy, pure, Except.pure]
    · simp [hs, Attempt.bind_eq_error, pure, Except.pure]
  | bytes bs =>
    by_cases hbs : bs = []
    · simp [hbs, Value.truthy, pure, Except.pure]
    · simp [hbs, Attempt.bind_eq_error, pure, Except.pure]
  | _ =>
    simp only
    split_ifs with hp
    · constructor
      · exact fun h => Or.inr (Or.inr ⟨(Except.error.inj h).symm, hp, by simp, by simp⟩)
      · rintro (⟨_, h, -⟩ | ⟨_, h, -⟩ | ⟨rfl, -⟩)
        · cases h
        · cases h
        · rfl
    · refine iff_of_false (fun h => by cases h) ?_
      rintro (⟨_, h, -⟩ | ⟨_, h, -⟩ | ⟨-, h, -⟩)
      · cases h
      · cases h
      · exact hp h

theorem outlineObject_eq_error_iff {p : Place} {es : Entries} {f : Fault} :
    outlineObject p es = .error f ↔ (p.keyword es "properties").value ≠ .null ∧
      (requiredOf (p.keyword es "required").value = .error f ∨
        ∃ ks, requiredOf (p.keyword es "required").value = .ok ks ∧
          declaration (p.keyword es "properties").value = .error f) := by
  unfold outlineObject
  simp only
  split
  · rename_i hnull
    exact iff_of_false (fun h => by cases h) fun h => h.1 hnull
  · rename_i hne
    rw [Attempt.bind_eq_error]
    refine Iff.trans (or_congr_right (exists_congr fun ks => and_congr_right fun _ => ?_))
      (and_iff_right hne).symm
    rw [Attempt.bind_eq_error]
    exact or_iff_left fun ⟨_, _, h⟩ => by cases h

theorem Plainly.outline_eq {p : Place} {es : Entries} {type : Value} (h : Plainly p es type) :
    outline p = if type.hashable then outlineType p.whole es type else .error .wrongType := by
  obtain ⟨hentries, hno, htype⟩ := h
  unfold outline
  simp only
  rw [Attempt.bind_ok (show declaration p.whole.value = .ok es by rw [hentries]; rfl),
    if_neg (by simp [hno]), htype]
  rfl

/-- A fault of a declaration without alternatives, by its type. -/
theorem flawed_of_outlineType {p : Place} {es : Entries} {type : Value} {f : Fault}
    (hplain : Plainly p es type) (h : outlineType p.whole es type = .error f) : Flawed p f := by
  unfold outlineType at h
  split at h
  · obtain ⟨hfree, hfault⟩ := textRule_eq_error_iff.1 ((Attempt.bind_eq_error.1 h).resolve_right
      fun ⟨_, _, h⟩ => by cases h)
    rcases hfault with ⟨s, hs, hsome, hparse⟩ | ⟨bs, hbs, hsome, hparse⟩ | ⟨rfl, hsome, hs, hbs⟩
    · exact .text hplain hfree hs hsome hparse
    · exact .bytes hplain hfree hbs hsome hparse
    · exact .pattern hplain hfree hsome hs hbs
  · cases h
  · cases h
  · cases h
  · cases h
  · obtain ⟨hdeclared, hrequired | ⟨ks, hks, hproperties⟩⟩ := outlineObject_eq_error_iff.1 h
    · obtain ⟨rfl, hsome, hno | ⟨xs, hxs, x, hx, hh⟩⟩ := requiredOf_eq_error_iff.1 hrequired
      · exact .required hplain hdeclared hsome hno
      · exact .requiredKey hplain hdeclared hsome hxs hx hh
    · obtain ⟨hno, rfl⟩ := declaration_eq_error_iff.1 hproperties
      exact .properties hplain hdeclared hks hno
  · cases h

theorem outlineType_string {p : Place} {es : Entries} {f : Fault}
    (hplain : Plainly p es (.str "string"))
    (h : textRule (p.whole.keyword es "enum").value (p.whole.keyword es "pattern").value =
      .error f) : outline p = .error f := by
  rw [hplain.outline_eq]
  exact Attempt.bind_eq_error.2 (Or.inl h)

theorem outlineType_object {p : Place} {es : Entries} {f : Fault}
    (hplain : Plainly p es (.str "object")) (h : outlineObject p.whole es = .error f) :
    outline p = .error f := by
  rw [hplain.outline_eq]
  exact h

/-- **A declaration has no outline** exactly if it has a fault of its own. -/
theorem outline_eq_error_iff {p : Place} {f : Fault} : outline p = .error f ↔ Flawed p f := by
  constructor
  · intro h
    rcases Attempt.bind_eq_error.1 h with hshape | ⟨es, hes, h⟩
    · obtain ⟨hno, rfl⟩ := declaration_eq_error_iff.1 hshape
      exact .shape hno
    have hentries := eq_map_of_declaration hes
    simp only at h
    split_ifs at h with hsome hhash
    · obtain ⟨hno, rfl⟩ := itemsOf_eq_error_iff.1 ((Attempt.bind_eq_error.1 h).resolve_right
        fun ⟨_, _, h⟩ => by cases h)
      exact .oneOf hentries hsome hno
    · exact flawed_of_outlineType ⟨hentries, Bool.eq_false_of_not_eq_true hsome, rfl⟩ h
    · cases h
      exact .type ⟨hentries, Bool.eq_false_of_not_eq_true hsome, rfl⟩
        (Bool.eq_false_of_not_eq_true hhash)
  · intro h
    cases h with
    | shape h => exact Attempt.bind_eq_error.2 (Or.inl (declaration_eq_error_iff.2 ⟨h, rfl⟩))
    | @oneOf es hentries hsome h =>
      refine Attempt.bind_eq_error.2 (Or.inr ⟨es, by rw [hentries]; rfl, ?_⟩)
      rw [if_pos hsome]
      exact Attempt.bind_eq_error.2 (Or.inl (itemsOf_eq_error_iff.2 ⟨h, rfl⟩))
    | type hplain h =>
      rw [hplain.outline_eq, h]
      rfl
    | pattern hplain hfree hsome htext hbytes =>
      exact outlineType_string hplain (textRule_eq_error_iff.2
        ⟨hfree, Or.inr (Or.inr ⟨rfl, hsome, htext, hbytes⟩)⟩)
    | text hplain hfree hpattern hsome h =>
      exact outlineType_string hplain (textRule_eq_error_iff.2
        ⟨hfree, Or.inl ⟨_, hpattern, hsome, h⟩⟩)
    | bytes hplain hfree hpattern hsome h =>
      exact outlineType_string hplain (textRule_eq_error_iff.2
        ⟨hfree, Or.inr (Or.inl ⟨_, hpattern, hsome, h⟩)⟩)
    | required hplain hdeclared hsome h =>
      exact outlineType_object hplain (outlineObject_eq_error_iff.2
        ⟨hdeclared, Or.inl (requiredOf_eq_error_iff.2 ⟨rfl, hsome, Or.inl h⟩)⟩)
    | requiredKey hplain hdeclared hsome hitems hx h =>
      exact outlineType_object hplain (outlineObject_eq_error_iff.2
        ⟨hdeclared, Or.inl (requiredOf_eq_error_iff.2
          ⟨rfl, hsome, Or.inr ⟨_, hitems, _, hx, h⟩⟩)⟩)
    | properties hplain hdeclared hrequired h =>
      exact outlineType_object hplain (outlineObject_eq_error_iff.2
        ⟨hdeclared, Or.inr ⟨_, hrequired, declaration_eq_error_iff.2 ⟨h, rfl⟩⟩⟩)

/-! ### What comes out -/

variable {p q : Place}

/-- What comes out at all great depths is the result. -/
theorem compileAt_eq_of_eventually {v : Value} {r : Attempt Schema}
    (h : ∃ N, ∀ n, N ≤ n → compileAt n ⟨[], v⟩ = r) : compileAt (nodes v + 1) ⟨[], v⟩ = r := by
  obtain ⟨N, hN⟩ := h
  rw [← compileAt_stable v (Nat.le_max_right N _)]
  exact hN _ (Nat.le_max_left N _)

theorem mapM_compileAt_of_le {n m : Nat} {ps : List Place} {ss : List Schema}
    (h : ps.mapM (compileAt n) = .ok ss) (hnm : n ≤ m) : ps.mapM (compileAt m) = .ok ss := by
  rw [← h]
  exact mapM_eq_of_tooDeep (fun _ _ hp => compileAt_of_le hp hnm) (by simp [h])

/-- Declarations that can each be compiled to some depth can all be compiled to one. -/
theorem exists_mapM_compileAt : ∀ {ps : List Place},
    (∀ p ∈ ps, ∃ n s, compileAt n p = .ok s) → ∃ n ss, ps.mapM (compileAt n) = .ok ss
  | [], _ => ⟨0, [], rfl⟩
  | p :: ps, h => by
    obtain ⟨n, s, hs⟩ := h p List.mem_cons_self
    obtain ⟨m, ss, hss⟩ := exists_mapM_compileAt fun q hq => h q (List.mem_cons_of_mem p hq)
    have hp : compileAt (max n m) p = .ok s := by
      rw [compileAt_of_le (by simp [hs]) (Nat.le_max_left n m), hs]
    exact ⟨max n m, s :: ss,
      Attempt.mapM_cons_ok hp (mapM_compileAt_of_le hss (Nat.le_max_right n m))⟩

theorem Sound.exists_compileAt (h : Sound p) : ∃ n s, compileAt n p = .ok s := by
  induction h with
  | intro ho _ ih =>
    obtain ⟨n, ss, hss⟩ := exists_mapM_compileAt ih
    exact ⟨n + 1, _, by rw [compileAt, Attempt.bind_ok ho, Attempt.bind_ok hss]; rfl⟩

/-- What can be compiled either is or is too deep. -/
theorem Sound.tooDeep_or_ok (h : Sound p) (n : Nat) :
    compileAt n p = .error .tooDeep ∨ ∃ s, compileAt n p = .ok s := by
  by_contra hno
  push Not at hno
  obtain ⟨m, s, hs⟩ := h.exists_compileAt
  have hle := compileAt_of_le hno.1 (Nat.le_max_left n m)
  rw [compileAt_of_le (by simp [hs]) (Nat.le_max_right n m), hs] at hle
  exact hno.2 s hle.symm

theorem sound_of_compileAt : ∀ {n : Nat} {p : Place} {s : Schema}, compileAt n p = .ok s → Sound p
  | n + 1, p, s, h => by
    rw [compileAt] at h
    obtain ⟨o, ho, h⟩ := Attempt.bind_eq_ok.1 h
    obtain ⟨ss, hss, -⟩ := Attempt.bind_eq_ok.1 h
    refine .intro ho fun q hq => ?_
    obtain ⟨s, -, hs⟩ := exists_mem_of_forall₂ (Attempt.mapM_eq_ok.1 hss) q hq
    exact sound_of_compileAt hs

theorem mapM_eq_error {f : Place → Attempt Schema} {g : Fault} {after : List Place} :
    ∀ {before : List Place} {ss : List Schema}, before.mapM f = .ok ss → f q = .error g →
      (before ++ q :: after).mapM f = .error g
  | [], _, _, hq => by
    rw [List.nil_append, List.mapM_cons, hq]
    rfl
  | b :: before, ss, hbefore, hq => by
    rw [List.mapM_cons] at hbefore
    obtain ⟨s, hs, hbefore⟩ := Attempt.bind_eq_ok.1 hbefore
    obtain ⟨ts, hts, -⟩ := Attempt.bind_eq_ok.1 hbefore
    rw [List.cons_append, List.mapM_cons, Attempt.bind_ok hs, mapM_eq_error hts hq]
    rfl

/-- A fault comes out at all depths that allow for it. -/
theorem Broken.eventually {f : Fault} (h : Broken p f) :
    ∃ N, ∀ n, N ≤ n → compileAt n p = .error f := by
  induction h with
  | here h =>
    refine ⟨1, fun n hn => ?_⟩
    obtain ⟨k, rfl⟩ := Nat.exists_eq_add_of_le' hn
    exact Attempt.bind_eq_error.2 (Or.inl (outline_eq_error_iff.2 h))
  | inside ho hparts hbefore _ ih =>
    obtain ⟨N, hN⟩ := ih
    obtain ⟨m, ss, hss⟩ := exists_mapM_compileAt fun b hb => (hbefore b hb).exists_compileAt
    refine ⟨max N m + 1, fun n hn => ?_⟩
    obtain ⟨k, rfl⟩ := Nat.exists_eq_add_of_le' hn
    have hk : m ≤ k + max N m ∧ N ≤ k + max N m := by omega
    rw [← Nat.add_assoc, compileAt, Attempt.bind_ok ho, hparts,
      mapM_eq_error (mapM_compileAt_of_le hss hk.1) (hN _ hk.2)]
    rfl

/-- Where an operation is too deep behind operations that are done or too deep, all are. -/
theorem mapM_eq_tooDeep {f : Place → Attempt Schema} {after : List Place} :
    ∀ {before : List Place}, (∀ b ∈ before, f b = .error .tooDeep ∨ ∃ s, f b = .ok s) →
      f q = .error .tooDeep → (before ++ q :: after).mapM f = .error .tooDeep
  | [], _, hq => by
    rw [List.nil_append, List.mapM_cons, hq]
    rfl
  | b :: before, hbefore, hq => by
    rw [List.cons_append, List.mapM_cons]
    rcases hbefore b List.mem_cons_self with hb | ⟨s, hb⟩
    · rw [hb]
      rfl
    · rw [Attempt.bind_ok hb, mapM_eq_tooDeep (fun c hc =>
        hbefore c (List.mem_cons_of_mem b hc)) hq]
      rfl

/-- At any depth a declaration in which they are nested without end is too deep. -/
theorem Endless.compileAt_eq (h : Endless p) (n : Nat) : compileAt n p = .error .tooDeep := by
  obtain ⟨E, hp, hE⟩ := h
  induction n generalizing p with
  | zero => rfl
  | succ n ih =>
    obtain ⟨o, before, r, after, ho, hparts, hbefore, hr⟩ := hE p hp
    rw [compileAt, Attempt.bind_ok ho, hparts,
      mapM_eq_tooDeep (fun b hb => (hbefore b hb).tooDeep_or_ok n) (ih hr)]
    rfl

/-- The first of some declarations that cannot be compiled. -/
theorem exists_first_not_sound {ps : List Place} (h : ¬ ∀ p ∈ ps, Sound p) :
    ∃ before q after, ps = before ++ q :: after ∧ (∀ b ∈ before, Sound b) ∧ ¬ Sound q := by
  classical
  push Not at h
  obtain ⟨p, hp, hno⟩ := h
  obtain ⟨q, hq⟩ := Option.isSome_iff_exists.1
    (List.find?_isSome.2 ⟨p, hp, decide_eq_true hno⟩ : (ps.find? fun q => ¬ Sound q).isSome)
  obtain ⟨hno, before, after, rfl, hbefore⟩ := List.find?_eq_some_iff_append.1 hq
  exact ⟨before, q, after, rfl, fun b hb => by simpa using hbefore b hb, of_decide_eq_true hno⟩

/-- A declaration that neither can be compiled nor fails has declarations nested without end: the
first one in it that cannot be compiled does not fail either. -/
theorem endless_of_not {p : Place} (hsound : ¬ Sound p) (hbroken : ∀ f, ¬ Broken p f) :
    Endless p := by
  refine ⟨fun q => ¬ Sound q ∧ ∀ f, ¬ Broken q f, ⟨hsound, hbroken⟩, fun q ⟨hs, hb⟩ => ?_⟩
  cases ho : outline q with
  | error f => exact absurd (.here (outline_eq_error_iff.1 ho)) (hb f)
  | ok o =>
    obtain ⟨before, r, after, hparts, hbefore, hr⟩ :=
      exists_first_not_sound fun hall => hs (.intro ho hall)
    exact ⟨o, before, r, after, rfl, hparts, hbefore, hr,
      fun f hf => hb f (.inside ho hparts hbefore hf)⟩

variable {v : Value}

/-- **A value can be compiled** exactly if it declares a schema that is sound all through. -/
theorem compile_eq_ok_iff : (∃ s, compile v = .ok s) ↔ Sound ⟨[], orNothing v⟩ := by
  constructor
  · exact fun ⟨s, h⟩ => sound_of_compileAt h
  · intro h
    obtain ⟨n, s, hs⟩ := h.exists_compileAt
    exact ⟨s, compileAt_eq_of_eventually ⟨n, fun m hm => by
      rw [compileAt_of_le (by simp [hs]) hm, hs]⟩⟩

/-- **Compiling fails** exactly with the first fault on the way, and where declarations are nested
without end. -/
theorem compile_eq_error_iff {f : Fault} : compile v = .error f ↔
    Broken ⟨[], orNothing v⟩ f ∨ f = .tooDeep ∧ Endless ⟨[], orNothing v⟩ := by
  constructor
  · intro h
    by_cases hbroken : ∃ g, Broken ⟨[], orNothing v⟩ g
    · obtain ⟨g, hg⟩ := hbroken
      have hc : compile v = .error g := compileAt_eq_of_eventually hg.eventually
      rw [h] at hc
      cases hc
      exact Or.inl hg
    · have hsound : ¬ Sound ⟨[], orNothing v⟩ := fun hs => by
        obtain ⟨s, hc⟩ := compile_eq_ok_iff.2 hs
        rw [h] at hc
        cases hc
      have hendless := endless_of_not hsound (not_exists.1 hbroken)
      have hc : compile v = .error .tooDeep := hendless.compileAt_eq _
      rw [h] at hc
      cases hc
      exact Or.inr ⟨rfl, hendless⟩
  · rintro (h | ⟨rfl, h⟩)
    · exact compileAt_eq_of_eventually h.eventually
    · exact h.compileAt_eq _

end SlidePress.Schema
