import SlidePress.Proofs.Schema.Conformance
import SlidePress.Proofs.Value.Key

/-! # What checks report

A check gives a list of errors, and an empty one is its approval. `Reports r P` says that `r` comes
to an end without a fault and approves exactly if `P` holds; the rules under "Putting reports
together" follow the ways in which checks are built from smaller ones. A report needs the way to
its place to be written out, so all of this holds at places whose ways consist of texts.

`Decides s C` says that a compiled schema approves exactly the values with the property `C`, at all
such places. There is one lemma for each constructor of `Schema`. -/

namespace SlidePress.Schema

/-! ### Places -/

/-- Every step of the way to a place is a text. -/
def Textual (path : Path) : Prop := ∀ k ∈ path, ∃ s, k = .str s

theorem textual_nil : Textual [] := fun _ h => absurd h List.not_mem_nil

theorem Textual.snoc {path : Path} (h : Textual path) (s : String) :
    Textual (path ++ [.str s]) := fun k hk => by
  rcases List.mem_append.1 hk with hk | hk
  · exact h k hk
  · exact ⟨s, List.mem_singleton.1 hk⟩

theorem Textual.exists_errorAt {path : Path} (h : Textual path) (message : String) :
    ∃ e, errorAt path message = .ok e := by
  have hs : ∀ k ∈ path, ∃ s, Attempt.ofOption .wrongType k.text? = .ok s ∧ True := fun k hk => by
    obtain ⟨s, rfl⟩ := h k hk
    exact ⟨s, rfl, trivial⟩
  obtain ⟨steps, hsteps, -⟩ := Attempt.exists_mapM hs
  exact ⟨_, by rw [errorAt, Attempt.bind_ok hsteps]; rfl⟩

/-! ### Putting reports together -/

/-- **A report is made, and it is empty exactly if a property holds.** -/
def Reports (r : Attempt (List String)) (P : Prop) : Prop := ∃ es, r = .ok es ∧ (es = [] ↔ P)

variable {r q : Attempt (List String)} {P Q : Prop}

theorem Reports.congr (h : Reports r P) (hpq : P ↔ Q) : Reports r Q := by
  obtain ⟨es, hr, he⟩ := h
  exact ⟨es, hr, he.trans hpq⟩

theorem reports_nil (h : P) : Reports (.ok []) P := ⟨[], rfl, by simp [h]⟩

theorem reports_oneError {path : Path} {message : String} (hp : Textual path) (h : ¬ P) :
    Reports (oneError path message) P := by
  obtain ⟨e, he⟩ := hp.exists_errorAt message
  exact ⟨[e], by rw [oneError, Attempt.bind_ok he]; rfl, by simp [h]⟩

theorem reports_if {b : Bool} (ht : b = true → Reports r P) (hf : b = false → Reports q P) :
    Reports (if b then r else q) P := by
  cases b with
  | true => exact ht rfl
  | false => exact hf rfl

theorem Reports.append (hr : Reports r P) (hq : Reports q Q) :
    Reports (do let a ← r; return a ++ (← q)) (P ∧ Q) := by
  obtain ⟨es, hr, he⟩ := hr
  obtain ⟨fs, hq, hf⟩ := hq
  exact ⟨es ++ fs, by rw [Attempt.bind_ok hr, Attempt.bind_ok hq]; rfl,
    by rw [List.append_eq_nil_iff, he, hf]⟩

theorem flatten_eq_nil_iff {α : Type} {R : α → Prop} {xs : List α} {parts : List (List String)}
    (h : List.Forall₂ (fun x es => es = [] ↔ R x) xs parts) :
    parts.flatten = [] ↔ ∀ x ∈ xs, R x := by
  induction h with
  | nil => simp
  | cons hx _ ih => rw [List.flatten_cons, List.append_eq_nil_iff, hx, ih, List.forall_mem_cons]

/-- The reports on all items, one after another. -/
theorem reports_flatten {α : Type} {f : α → Attempt (List String)} {R : α → Prop} {xs : List α}
    (h : ∀ x ∈ xs, Reports (f x) (R x)) :
    Reports (do let parts ← xs.mapM f; return parts.flatten) (∀ x ∈ xs, R x) := by
  obtain ⟨parts, hm, hp⟩ := Attempt.exists_mapM h
  exact ⟨parts.flatten, by rw [Attempt.bind_ok hm]; rfl, flatten_eq_nil_iff hp⟩

/-! ### Schemas without parts -/

/-- **A compiled schema approves exactly the values with a property.** -/
def Decides (s : Schema) (C : Value → Prop) : Prop :=
  ∀ path, Textual path → ∀ v, Reports (check s path v) (C v)

theorem Decides.congr {s : Schema} {C D : Value → Prop} (h : Decides s C) (hcd : ∀ v, C v ↔ D v) :
    Decides s D := fun path hp v => (h path hp v).congr (hcd v)

theorem decides_anything : Decides .anything fun _ => True := fun _ _ _ => reports_nil trivial

/-- A schema that only looks at the kind of a value. -/
theorem decides_kind {s : Schema} {kind : Value → Bool} {name : String}
    (h : ∀ path v, check s path v = if kind v then .ok [] else wrongKind path name v) :
    Decides s fun v => kind v = true := fun path hp v => by
  rw [h]
  exact reports_if (fun hk => reports_nil hk) fun hk => reports_oneError hp (by simp [hk])

theorem decides_number : Decides .number fun v => v.isNumber = true :=
  decides_kind fun _ _ => rfl

theorem decides_integer :
    Decides .integer fun v => ∃ n, v = .int n ∨ ∃ x, v = .float x ∧ Number.Equals x n := by
  intro path hp v
  cases v with
  | int n => exact reports_nil ⟨n, Or.inl rfl⟩
  | float x =>
    refine reports_if (fun h => reports_nil ?_) fun h => reports_oneError hp ?_
    · obtain ⟨n, hn⟩ := Number.isWhole_iff.1 h
      exact ⟨n, Or.inr ⟨x, rfl, hn⟩⟩
    · rintro ⟨n, hv | ⟨_, hv, hn⟩⟩
      · cases hv
      · cases hv
        rw [Number.isWhole_iff.2 ⟨n, hn⟩] at h
        cases h
  | _ => exact reports_oneError hp (by simp)

theorem decides_boolean : Decides .boolean fun v => ∃ b, v = .bool b := by
  intro path hp v
  cases v with
  | bool b => exact reports_nil ⟨b, rfl⟩
  | _ => exact reports_oneError hp (by simp)

theorem decides_mapping : Decides .mapping fun v => v.isMap = true :=
  decides_kind fun _ _ => rfl

/-- A schema for texts approves a text by its rule, and nothing else. -/
theorem decides_text {rule : TextRule} {C : String → Prop}
    (h : ∀ path, Textual path → ∀ s, Reports (checkText rule path s) (C s)) :
    Decides (.text rule) fun v => ∃ s, v.text? = some s ∧ C s := by
  intro path hp v
  rw [check]
  rcases hv : v.text? with _ | s
  · exact reports_oneError hp (by simp [hv])
  · exact (h path hp s).congr (by simp [hv])

theorem reports_free {path : Path} (s : String) : Reports (checkText .free path s) True :=
  reports_nil trivial

theorem reports_among {path : Path} (hp : Textual path) (ms : List Value) (s : String) :
    Reports (checkText (.among (.list ms)) path s) (∃ m ∈ ms, m.text? = some s) := by
  have ha : (ms.any fun m => m.same (.str s)) = true ↔ ∃ m ∈ ms, m.text? = some s := by
    simp only [List.any_eq_true, Value.same_str_iff]
  rw [checkText, isAmong, Attempt.bind_ok rfl]
  exact reports_if (fun h => reports_nil (ha.1 h)) fun h =>
    reports_oneError hp fun hm => by rw [ha.2 hm] at h; cases h

theorem reports_matching {path : Path} (hp : Textual path) (source : String) (p : Pattern)
    (s : String) : Reports (checkText (.matching source p) path s) (p.search s = true) :=
  reports_if (fun h => reports_nil h) fun h => reports_oneError hp (by simp [h])

/-! ### Schemas with parts -/

/-- Compiled schemas approve exactly the values with the properties that stand beside them. -/
abbrev DecideAll {α : Type} (C : α → Value → Prop) : List α → List Schema → Prop :=
  List.Forall₂ fun a s => Decides s (C a)

theorem exists_accepts {α : Type} {C : α → Value → Prop} {path : Path} (hp : Textual path)
    (v : Value) {as : List α} {ss : List Schema} (h : DecideAll C as ss) :
    ∃ b, accepts ss path v = .ok b ∧ (b = true ↔ ∃ a ∈ as, C a v) := by
  induction h with
  | nil => exact ⟨false, rfl, by simp⟩
  | @cons a s as ss hs _ ih =>
    obtain ⟨es, hc, he⟩ := hs path hp v
    rw [accepts, Attempt.bind_ok hc]
    cases es with
    | nil => exact ⟨true, rfl, by simp [he.1 rfl]⟩
    | cons e es =>
      obtain ⟨b, hb, hbi⟩ := ih
      have ha : ¬ C a v := fun ha => by cases he.2 ha
      exact ⟨b, hb, by simp [hbi, ha]⟩

theorem decides_union {α : Type} {C : α → Value → Prop} {as : List α} {ss : List Schema}
    (h : DecideAll C as ss) : Decides (.union ss) fun v => ∃ a ∈ as, C a v := by
  intro path hp v
  obtain ⟨b, hb, hbi⟩ := exists_accepts hp v h
  rw [check, Attempt.bind_ok hb]
  exact reports_if (fun h => reports_nil (hbi.1 h)) fun h =>
    reports_oneError hp fun ha => by rw [hbi.2 ha] at h; cases h

theorem reports_bound {path : Path} (hp : Textual path) {bound : Value}
    (hb : bound = .null ∨ ∃ n, bound = .int n) {outside : Value → Attempt Bool} {C : Int → Prop}
    (ho : ∀ n : Int, ∃ b, outside (.int n) = .ok b ∧ (b = false ↔ C n)) (extreme : String) :
    Reports (checkBound (boundOf bound) outside extreme path) (∀ n, bound = .int n → C n) := by
  rcases hb with rfl | ⟨n, rfl⟩
  · exact reports_nil (by simp)
  · obtain ⟨b, hb, hc⟩ := ho n
    rw [boundOf, checkBound, Attempt.bind_ok hb]
    · refine reports_if (fun h => reports_oneError hp ?_) fun h => reports_nil ?_
      · simp [← hc, h]
      · simpa using hc.1 h
    · simp

theorem less_int (m n : Int) :
    ∃ b, Value.less (.int m) (.int n) = .ok b ∧ (b = false ↔ n ≤ m) := by
  refine ⟨some (compare m n) == some .lt, rfl, ?_⟩
  rw [beq_eq_false_iff_ne, Ne, Option.some.injEq, Int.compare_eq_lt, Int.not_lt]

theorem reports_length {path : Path} (hp : Textual path) {least most : Value}
    (hl : least = .null ∨ ∃ n, least = .int n) (hm : most = .null ∨ ∃ n, most = .int n) (k : Nat) :
    Reports (checkLength (boundOf least) (boundOf most) path k)
      ((∀ n : Int, least = .int n → n ≤ k) ∧ ∀ n : Int, most = .int n → k ≤ n) :=
  (reports_bound hp hl (fun n => less_int k n) "least").append
    (reports_bound hp hm (fun n => less_int n k) "most")

theorem decides_array {items : Schema} {C : Value → Prop} (hi : Decides items C)
    {least most : Value} (hl : least = .null ∨ ∃ n, least = .int n)
    (hm : most = .null ∨ ∃ n, most = .int n) :
    Decides (.array items (boundOf least) (boundOf most)) fun v =>
      ∃ xs, v = .list xs ∧ (∀ x ∈ Value.members xs, C x) ∧
        (∀ n : Int, least = .int n → n ≤ xs.length) ∧ ∀ n : Int, most = .int n → xs.length ≤ n := by
  intro path hp v
  cases v with
  | list xs =>
    have hx : Reports (do
        let parts ← ((Value.members xs).mapIdx fun i x => (i, x)).mapM fun e =>
          check items (path ++ [.str (toString e.1)]) e.2
        return parts.flatten) (∀ e ∈ (Value.members xs).mapIdx fun i x => (i, x), C e.2) :=
      reports_flatten fun e _ => hi _ (hp.snoc _) e.2
    have h := hx.append (reports_length hp hl hm xs.length)
    rw [bind_assoc] at h
    simp only [pure_bind] at h
    refine h.congr ?_
    simp only [List.mem_mapIdx, forall_exists_index, Value.list.injEq, exists_eq_left']
    refine and_congr_left fun _ => ?_
    constructor
    · intro hc x hx
      obtain ⟨i, hi, rfl⟩ := List.mem_iff_getElem.1 hx
      exact hc _ i hi rfl
    · rintro hc _ i hi rfl
      exact hc _ (List.getElem_mem hi)
  | _ => exact reports_oneError hp (by simp)

/-! ### Fields -/

theorem present?_eq_some {es : Entries} {k x : Value} :
    present? es k = some x ↔ es.find? k = some x ∧ x ≠ .null := by
  unfold present?
  split
  · simp_all
  · rename_i h
    refine ⟨fun hx => ⟨hx, fun hn => h (hn ▸ hx)⟩, And.left⟩

theorem reports_missing {path : Path} (hp : Textual path) {k : Value} (hk : ∃ s, k = .str s)
    {P : Prop} (h : ¬ P) : Reports (missing path k) P := by
  obtain ⟨s, rfl⟩ := hk
  exact reports_oneError (hp.snoc s) h

theorem reports_extra {path : Path} (hp : Textual path) {extra : List Value}
    (hk : ∀ k ∈ extra, ∃ s, k = .str s) (es : Entries) :
    Reports (checkExtra extra es path) (∀ k ∈ extra, (present? es k).isSome = true) := by
  obtain ⟨ks, hs, hperm⟩ := Value.exists_sorted hk
  rw [checkExtra, Attempt.bind_ok hs]
  refine (reports_flatten (R := fun k => (present? es k).isSome = true) fun k hkm => ?_).congr ?_
  · refine reports_if (fun h => reports_missing hp (hk k (hperm.mem_iff.1 hkm)) ?_) fun h =>
      reports_nil ?_
    · simpa using h
    · simpa using h
  · simp only [hperm.mem_iff]

/-- A declared field that is there has to conform, and one that is not there must not be
required. -/
theorem reports_fields {path : Path} (hp : Textual path) (required : List Value) (es : Entries)
    {ps : List (Value × Value)} {fields : List (Value × Schema)} {C : Value → Value → Prop}
    (hk : ∀ p ∈ ps, ∃ s, p.1 = .str s)
    (hf : List.Forall₂ (fun p f => f.1 = p.1 ∧ Decides f.2 (C p.2)) ps fields) :
    Reports (checkFields required es fields path)
      (∀ p ∈ ps, (∀ x, present? es p.1 = some x → C p.2 x) ∧
        ((required.any fun r => p.1.same r) = true → (present? es p.1).isSome = true)) := by
  induction hf with
  | nil => exact reports_nil (by simp)
  | @cons p f ps fields hpf _ ih =>
    obtain ⟨k, c⟩ := p
    obtain ⟨k', s⟩ := f
    obtain ⟨rfl, hs⟩ := hpf
    rw [checkFields, List.forall_mem_cons]
    obtain ⟨name, rfl⟩ := hk _ List.mem_cons_self
    have hrest := ih fun p hp => hk p (List.mem_cons_of_mem _ hp)
    rcases hx : present? es (.str name) with _ | x
    · rcases hr : required.any fun r => (Value.str name).same r with _ | _
      · exact ((reports_nil (P := True) trivial).append hrest).congr (by simp)
      · exact ((reports_missing (P := False) hp ⟨name, rfl⟩ id).append hrest).congr (by simp)
    · exact ((hs _ (hp.snoc name) x).append hrest).congr (by simp)

theorem mem_undeclared {required : List Value} {fields : List (Value × Schema)} {k : Value} :
    k ∈ undeclared required fields ↔ k ∈ required ∧ ¬ ∃ f ∈ fields, k.same f.1 = true := by
  simp [undeclared]

/-- A required field is declared or not, and has to be there in both cases. -/
theorem forall_required_iff {es : Entries} {required : List Value} {ps : List (Value × Value)}
    {fields : List (Value × Schema)} (hk : ∀ k ∈ required, ∃ s, k = .str s)
    (hp : ∀ p ∈ ps, ∃ s, p.1 = .str s) (hf : fields.map Prod.fst = ps.map Prod.fst) :
    (∀ p ∈ ps, (required.any fun r => p.1.same r) = true → (present? es p.1).isSome = true) ∧
      (∀ k ∈ undeclared required fields, (present? es k).isSome = true) ↔
    ∀ k ∈ required, (present? es k).isSome = true := by
  have hdecl (k : Value) :
      (∃ f ∈ fields, k.same f.1 = true) ↔ ∃ p ∈ ps, k.same p.1 = true := by
    have := congrArg (fun ls => ls.any k.same) hf
    simp only [List.any_map] at this
    rw [← List.any_eq_true, ← List.any_eq_true]
    exact iff_of_eq (congrArg (· = true) this)
  constructor
  · rintro ⟨hdeclared, hextra⟩ k hkr
    obtain ⟨s, rfl⟩ := hk k hkr
    by_cases hd : ∃ f ∈ fields, (Value.str s).same f.1 = true
    · obtain ⟨p, hpm, hsame⟩ := (hdecl _).1 hd
      obtain ⟨t, ht⟩ := hp p hpm
      rw [ht] at hsame
      obtain rfl := Value.str_same_str.1 hsame
      have := hdeclared p hpm (List.any_eq_true.2 ⟨_, hkr, by rw [ht]; exact hsame⟩)
      rwa [ht] at this
    · exact hextra _ (mem_undeclared.2 ⟨hkr, hd⟩)
  · intro h
    refine ⟨fun p hpm hr => ?_, fun k hkm => h k (mem_undeclared.1 hkm).1⟩
    obtain ⟨r, hrm, hsame⟩ := List.any_eq_true.1 hr
    obtain ⟨s, hs⟩ := hp p hpm
    obtain ⟨t, rfl⟩ := hk r hrm
    rw [hs] at hsame ⊢
    obtain rfl := Value.str_same_str.1 hsame
    exact h _ hrm

theorem decides_object {required : List Value} {ps : List (Value × Value)}
    {fields : List (Value × Schema)} {C : Value → Value → Prop}
    (hk : ∀ k ∈ required, ∃ s, k = .str s) (hps : ∀ p ∈ ps, ∃ s, p.1 = .str s)
    (hf : List.Forall₂ (fun p f => f.1 = p.1 ∧ Decides f.2 (C p.2)) ps fields) :
    Decides (.object required fields (undeclared required fields)) fun v => ∃ fs, v = .map fs ∧
      (∀ p ∈ ps, ∀ x, present? (Entries.members fs) p.1 = some x → C p.2 x) ∧
      ∀ k ∈ required, (present? (Entries.members fs) k).isSome = true := by
  intro path hp v
  cases v with
  | map fs =>
    have hextra : ∀ k ∈ undeclared required fields, ∃ s, k = .str s :=
      fun k hkm => hk k (mem_undeclared.1 hkm).1
    have hkeys : fields.map Prod.fst = ps.map Prod.fst := by
      rw [← List.forall₂_eq_eq_eq, List.forall₂_map_left_iff, List.forall₂_map_right_iff]
      exact (hf.imp fun _ _ h => h.1).flip
    have h := (reports_fields hp required (Entries.members fs) hps hf).append
      (reports_extra hp hextra (Entries.members fs))
    refine h.congr ?_
    simp only [Value.map.injEq, exists_eq_left', ← forall_required_iff hk hps hkeys]
    simp only [forall_and, and_assoc]
  | _ => exact reports_oneError hp (by simp)

end SlidePress.Schema
