import SlidePress.Proofs.Schema.Report

/-! # What checks stumble over

Compiling takes what a declaration holds as it is: names that are no texts, bounds that are no numbers,
allowed values of any kind. A check comes to an end all the same for most values; it fails where such a
thing is made use of. `Stumbles` lists the ways in which this happens, and `fails_check` says that there
are no others.

* `Stumbles`: a check fails on a value, and over what.
* `fails_check`: the list is complete.
* `Tame.not_stumbles`: schemas whose checks never fail. -/

namespace SlidePress

namespace Attempt

/-- An operation ends in a fault. -/
def Fails {α : Type} (r : Attempt α) : Prop := ∃ f, r = .error f

variable {α β : Type} {r : Attempt α} {f : α → Attempt β}

theorem not_fails_ok (a : α) : ¬ Fails (.ok a : Attempt α) := fun ⟨_, h⟩ => by cases h

theorem fails_error (f : Fault) : Fails (.error f : Attempt α) := ⟨f, rfl⟩

theorem not_fails_iff : ¬ Fails r ↔ ∃ a, r = .ok a := by
  cases r with
  | error f => exact iff_of_false (fun h => h (fails_error f)) fun ⟨_, h⟩ => by cases h
  | ok a => exact iff_of_true (not_fails_ok a) ⟨a, rfl⟩

/-- Two steps fail if the first one does, or the second one with its result. -/
theorem fails_bind : Fails (r >>= f) ↔ Fails r ∨ ∃ a, r = .ok a ∧ Fails (f a) := by
  unfold Fails
  simp only [bind_eq_error, exists_or]
  refine or_congr_right ?_
  constructor
  · rintro ⟨e, a, ha, he⟩
    exact ⟨a, ha, e, he⟩
  · rintro ⟨a, ha, e, he⟩
    exact ⟨e, a, ha, he⟩

theorem fails_mapM {xs : List α} : Fails (xs.mapM f) ↔ ∃ x ∈ xs, Fails (f x) := by
  constructor
  · rintro ⟨e, he⟩
    obtain ⟨x, hx, hfx⟩ := exists_of_mapM_eq_error he
    exact ⟨x, hx, e, hfx⟩
  · rintro ⟨x, hx, hfx⟩
    by_contra hno
    obtain ⟨ys, hys⟩ := not_fails_iff.1 hno
    obtain ⟨y, -, hy⟩ := exists_mem_of_forall₂ (mapM_eq_ok.1 hys) x hx
    exact not_fails_iff.2 ⟨y, hy⟩ hfx

/-- One report behind another fails if one of them does. -/
theorem fails_append {r q : Attempt (List β)} :
    Fails (do let a ← r; return a ++ (← q)) ↔ Fails r ∨ Fails q := by
  cases r with
  | error e => exact iff_of_true ⟨e, rfl⟩ (Or.inl ⟨e, rfl⟩)
  | ok a =>
    cases q with
    | error e => exact iff_of_true ⟨e, rfl⟩ (Or.inr ⟨e, rfl⟩)
    | ok b =>
      refine iff_of_false (not_fails_ok _) ?_
      rintro (h | h) <;> exact not_fails_ok _ h

theorem fails_flatten {f : α → Attempt (List β)} {xs : List α} :
    Fails (do let parts ← xs.mapM f; return parts.flatten) ↔ ∃ x ∈ xs, Fails (f x) := by
  rw [fails_bind, fails_mapM]
  refine or_iff_left ?_
  rintro ⟨parts, -, h⟩
  exact not_fails_ok _ h

end Attempt

namespace Value

open Attempt (Fails)

/-- A number can be compared with numbers alone. -/
theorem fails_less_int {n : Int} {m : Value} : Fails (less (.int n) m) ↔ m.numeric? = none := by
  cases m with
  | bool | int | float => exact iff_of_false (Attempt.not_fails_ok _) (by simp [numeric?])
  | _ => exact iff_of_true ⟨_, rfl⟩ rfl

theorem fails_less_to_int {n : Int} {m : Value} : Fails (less m (.int n)) ↔ m.numeric? = none := by
  cases m with
  | bool | int | float => exact iff_of_false (Attempt.not_fails_ok _) (by simp [numeric?])
  | _ => exact iff_of_true ⟨_, rfl⟩ rfl

section

variable {α : Type}

theorem insertOn_perm {e : Value × α} : ∀ {es fs : List (Value × α)}, insertOn e es = .ok fs →
    fs.Perm (e :: es)
  | [], fs, h => by
    cases h
    exact .refl _
  | f :: es, fs, h => by
    rw [insertOn] at h
    obtain ⟨before, -, h⟩ := Attempt.bind_eq_ok.1 h
    split_ifs at h
    · cases h
      exact .refl _
    · obtain ⟨rest, hrest, h⟩ := Attempt.bind_eq_ok.1 h
      cases h
      exact ((insertOn_perm hrest).cons f).trans (.swap e f es)

theorem foldlM_insertOn_perm : ∀ {es got fs : List (Value × α)},
    es.foldlM (fun got e => insertOn e got) got = .ok fs → fs.Perm (got ++ es)
  | [], got, fs, h => by
    cases h
    rw [List.append_nil]
  | e :: es, got, fs, h => by
    rw [List.foldlM_cons] at h
    obtain ⟨next, hnext, h⟩ := Attempt.bind_eq_ok.1 h
    have hmiddle : (e :: got ++ es).Perm (got ++ e :: es) := List.perm_middle.symm
    exact (foldlM_insertOn_perm h).trans (((insertOn_perm hnext).append_right es).trans hmiddle)

end

/-- Sorting loses nothing, whatever is sorted. -/
theorem sorted_perm {vs ks : List Value} (h : sorted vs = .ok ks) : ks.Perm vs := by
  obtain ⟨pairs, hpairs, h⟩ := Attempt.bind_eq_ok.1 h
  cases h
  have hperm := (foldlM_insertOn_perm hpairs).map Prod.snd
  rwa [List.nil_append, List.map_map, Function.comp_def, List.map_id'] at hperm

end Value

namespace Schema

open Attempt

/-- A step of the way to a place is no text, so that no error can be written there. -/
def Unwritten (path : Path) : Prop := ∃ k ∈ path, k.text? = none

/-- A check finds errors. -/
def Objects (s : Schema) (path : Path) (v : Value) : Prop := ∃ e es, check s path v = .ok (e :: es)

/-- **A schema refuses a value** itself, whatever the schemas in it say. -/
inductive Refuses : Schema → Value → Prop
  | text {rule : TextRule} {v : Value} (hv : v.text? = none) : Refuses (.text rule) v
  | among {allowed v : Value} {t : String} (hv : v.text? = some t)
      (h : isAmong t allowed = .ok false) : Refuses (.text (.among allowed)) v
  | matching {source : String} {p : Pattern} {v : Value} {t : String} (hv : v.text? = some t)
      (h : p.search t = false) : Refuses (.text (.matching source p)) v
  | number {v : Value} (hv : v.isNumber = false) : Refuses .number v
  | integer {v : Value} (hv : v.isNumber = false) : Refuses .integer v
  | fraction {x : Float} (hx : Number.isWhole x = false) : Refuses .integer (.float x)
  | boolean {v : Value} (hv : ∀ b, v ≠ .bool b) : Refuses .boolean v
  | array {items : Schema} {least most : Option Value} {v : Value} (hv : ∀ xs, v ≠ .list xs) :
      Refuses (.array items least most) v
  | least {items : Schema} {m : Value} {most : Option Value} {xs : List Value}
      (h : Value.less (.int xs.length) m = .ok true) : Refuses (.array items (some m) most) (.list xs)
  | most {items : Schema} {least : Option Value} {m : Value} {xs : List Value}
      (h : Value.less m (.int xs.length) = .ok true) :
      Refuses (.array items least (some m)) (.list xs)
  | mapping {v : Value} (hv : v.isMap = false) : Refuses .mapping v
  | object {required : List Value} {fields : List (Value × Schema)} {extra : List Value} {v : Value}
      (hv : ∀ es, v ≠ .map es) : Refuses (.object required fields extra) v

/-- **A check fails on a value.** -/
inductive Stumbles : Schema → Path → Value → Prop
  /-- The value is refused, but the way to it cannot be written. -/
  | refusal {s : Schema} {path : Path} {v : Value} (h : Refuses s v) (hp : Unwritten path) :
      Stumbles s path v
  /-- What a text has to be among is nothing that a text can be looked for in. -/
  | among {allowed v : Value} {path : Path} {t : String} (hv : v.text? = some t)
      (h : Fails (isAmong t allowed)) : Stumbles (.text (.among allowed)) path v
  /-- A text is searched for an expression for bytes. -/
  | binary {path : Path} {v : Value} {t : String} (hv : v.text? = some t) :
      Stumbles (.text .binary) path v
  /-- The least length is no number. -/
  | least {items : Schema} {m : Value} {most : Option Value} {path : Path} {xs : List Value}
      (hm : m.numeric? = none) : Stumbles (.array items (some m) most) path (.list xs)
  /-- The greatest length is no number. -/
  | most {items : Schema} {least : Option Value} {m : Value} {path : Path} {xs : List Value}
      (hm : m.numeric? = none) : Stumbles (.array items least (some m)) path (.list xs)
  | item {items : Schema} {least most : Option Value} {path : Path} {xs : List Value} {x : Value}
      {i : Nat} (hx : (Value.members xs)[i]? = some x)
      (h : Stumbles items (path ++ [.str (toString i)]) x) :
      Stumbles (.array items least most) path (.list xs)
  /-- The check fails on an alternative, and those before it do not fit. -/
  | member {ms before after : List Schema} {m : Schema} {path : Path} {v : Value}
      (hms : ms = before ++ m :: after) (hb : ∀ b ∈ before, Objects b path v)
      (h : Stumbles m path v) : Stumbles (.union ms) path v
  /-- No alternative fits, but the way cannot be written. -/
  | nowhere {ms : List Schema} {path : Path} {v : Value} (h : ∀ m ∈ ms, Objects m path v)
      (hp : Unwritten path) : Stumbles (.union ms) path v
  | field {required : List Value} {fields : List (Value × Schema)} {extra : List Value}
      {path : Path} {es : Entries} {f : Value × Schema} {x : Value} (hf : f ∈ fields)
      (hx : present? (Entries.members es) f.1 = some x) (h : Stumbles f.2 (path ++ [f.1]) x) :
      Stumbles (.object required fields extra) path (.map es)
  /-- A declared field is missing, but the way to it cannot be written. -/
  | missing {required : List Value} {fields : List (Value × Schema)} {extra : List Value}
      {path : Path} {es : Entries} {f : Value × Schema} (hf : f ∈ fields)
      (hr : ∃ r ∈ required, f.1.same r = true) (hx : present? (Entries.members es) f.1 = none)
      (hp : Unwritten (path ++ [f.1])) : Stumbles (.object required fields extra) path (.map es)
  /-- Another required field is missing, but the way to it cannot be written. -/
  | undeclared {required : List Value} {fields : List (Value × Schema)} {extra : List Value}
      {path : Path} {es : Entries} {k : Value} (hk : k ∈ extra)
      (hx : present? (Entries.members es) k = none) (hp : Unwritten (path ++ [k])) :
      Stumbles (.object required fields extra) path (.map es)
  /-- The required fields that are not declared have no order. -/
  | order {required : List Value} {fields : List (Value × Schema)} {extra : List Value}
      {path : Path} {es : Entries} (h : Fails (Value.sorted extra)) :
      Stumbles (.object required fields extra) path (.map es)

/-! ### Reports that are not made -/

theorem fails_errorAt {path : Path} {message : String} :
    Fails (errorAt path message) ↔ Unwritten path := by
  rw [errorAt, fails_bind, fails_mapM, or_iff_left]
  · refine exists_congr fun k => and_congr_right fun _ => ?_
    cases h : k.text? with
    | none => exact iff_of_true ⟨_, rfl⟩ rfl
    | some t => exact iff_of_false (not_fails_ok t) (by simp)
  · rintro ⟨steps, -, h⟩
    exact not_fails_ok _ h

theorem fails_oneError {path : Path} {message : String} :
    Fails (oneError path message) ↔ Unwritten path := by
  rw [oneError, fails_bind, fails_errorAt, or_iff_left]
  rintro ⟨e, -, h⟩
  exact not_fails_ok _ h

theorem fails_if {c : Prop} [Decidable c] {r q : Attempt (List String)} :
    Fails (if c then r else q) ↔ c ∧ Fails r ∨ ¬ c ∧ Fails q := by
  split_ifs with h <;> simp [h]

theorem fails_missing {path : Path} {k : Value} : Fails (missing path k) ↔ Unwritten (path ++ [k]) :=
  fails_oneError

theorem fails_checkText_among {allowed : Value} {path : Path} {t : String} :
    Fails (checkText (.among allowed) path t) ↔
      Fails (isAmong t allowed) ∨ isAmong t allowed = .ok false ∧ Unwritten path := by
  have hitems : ∀ b, isAmong t allowed = .ok b → ∃ xs, itemsOf allowed = .ok xs := by
    intro b h
    cases allowed with
    | str | map | list | tuple | set => exact ⟨_, rfl⟩
    | _ => cases h
  rw [checkText, fails_bind]
  refine or_congr_right ?_
  constructor
  · rintro ⟨b, hb, hfails⟩
    cases b with
    | true => exact absurd hfails (not_fails_ok _)
    | false =>
      obtain ⟨xs, hxs⟩ := hitems false hb
      simp only [Bool.false_eq_true, if_false] at hfails
      rw [bind_ok hxs, fails_oneError] at hfails
      exact ⟨hb, hfails⟩
  · rintro ⟨hb, hp⟩
    obtain ⟨xs, hxs⟩ := hitems false hb
    refine ⟨false, hb, ?_⟩
    simp only [Bool.false_eq_true, if_false]
    rw [bind_ok hxs, fails_oneError]
    exact hp

theorem fails_checkBound {bound : Option Value} {outside : Value → Attempt Bool} {extreme : String}
    {path : Path} : Fails (checkBound bound outside extreme path) ↔
      ∃ m, bound = some m ∧ (Fails (outside m) ∨ outside m = .ok true ∧ Unwritten path) := by
  cases bound with
  | none => exact iff_of_false (not_fails_ok _) (by simp)
  | some m =>
    rw [checkBound, fails_bind]
    simp only [Option.some.injEq, exists_eq_left']
    refine or_congr_right ?_
    constructor
    · rintro ⟨b, hb, hfails⟩
      cases b with
      | false => exact absurd hfails (not_fails_ok _)
      | true => exact ⟨hb, fails_oneError.1 hfails⟩
    · rintro ⟨hb, hp⟩
      exact ⟨true, hb, fails_oneError.2 hp⟩

theorem fails_checkExtra {extra : List Value} {es : Entries} {path : Path} :
    Fails (checkExtra extra es path) ↔ Fails (Value.sorted extra) ∨
      ∃ k ∈ extra, present? es k = none ∧ Unwritten (path ++ [k]) := by
  rw [checkExtra, fails_bind]
  by_cases h : Fails (Value.sorted extra)
  · simp [h]
  · obtain ⟨ks, hks⟩ := not_fails_iff.1 h
    have hmem (k : Value) : k ∈ ks ↔ k ∈ extra := (Value.sorted_perm hks).mem_iff
    simp only [hks, Except.ok.injEq, exists_eq_left', fails_flatten, fails_if, hmem]
    refine or_congr_right (exists_congr fun k => and_congr_right fun _ => ?_)
    simp [fails_missing, not_fails_ok]

/-! ### Schemas without parts -/

section

variable {path : Path} {v : Value}

/-- A schema that approves a value or refuses it, and fails only where it refuses it. -/
theorem fails_check_of_refuses {s : Schema} (hs : Stumbles s path v → Refuses s v ∧ Unwritten path)
    (h : check s path v = .ok [] ∧ ¬ Refuses s v ∨
      Refuses s v ∧ ∃ message, check s path v = oneError path message) :
    Fails (check s path v) ↔ Stumbles s path v := by
  rcases h with ⟨hcheck, hno⟩ | ⟨hrefuses, message, hcheck⟩
  · rw [hcheck]
    exact iff_of_false (not_fails_ok _) fun h => hno (hs h).1
  · rw [hcheck, fails_oneError]
    exact ⟨.refusal hrefuses, fun h => (hs h).2⟩

theorem fails_check_anything : Fails (check .anything path v) ↔ Stumbles .anything path v := by
  refine fails_check_of_refuses (fun h => ?_) (Or.inl ⟨rfl, fun h => by cases h⟩)
  cases h with
  | refusal h hp => exact ⟨h, hp⟩

theorem fails_check_number : Fails (check .number path v) ↔ Stumbles .number path v := by
  refine fails_check_of_refuses (fun h => ?_) ?_
  · cases h with
    | refusal h hp => exact ⟨h, hp⟩
  · rw [check]
    split_ifs with hv
    · refine Or.inl ⟨rfl, fun h => ?_⟩
      cases h with
      | number hno => simp [hv] at hno
    · exact Or.inr ⟨.number (by simpa using hv), _, rfl⟩

theorem fails_check_integer : Fails (check .integer path v) ↔ Stumbles .integer path v := by
  refine fails_check_of_refuses (fun h => ?_) ?_
  · cases h with
    | refusal h hp => exact ⟨h, hp⟩
  · cases v with
    | int n =>
      refine Or.inl ⟨rfl, fun h => ?_⟩
      cases h with
      | integer hno => cases hno
    | float x =>
      rw [check]
      split_ifs with hx
      · refine Or.inl ⟨rfl, fun h => ?_⟩
        cases h with
        | integer hno => cases hno
        | fraction hno => simp [hx] at hno
      · exact Or.inr ⟨.fraction (by simpa using hx), _, rfl⟩
    | _ => exact Or.inr ⟨.integer rfl, _, rfl⟩

theorem fails_check_boolean : Fails (check .boolean path v) ↔ Stumbles .boolean path v := by
  refine fails_check_of_refuses (fun h => ?_) ?_
  · cases h with
    | refusal h hp => exact ⟨h, hp⟩
  · cases v with
    | bool b =>
      refine Or.inl ⟨rfl, fun h => ?_⟩
      cases h with
      | boolean hno => exact hno b rfl
    | _ => exact Or.inr ⟨.boolean (by simp), _, rfl⟩

theorem fails_check_mapping : Fails (check .mapping path v) ↔ Stumbles .mapping path v := by
  refine fails_check_of_refuses (fun h => ?_) ?_
  · cases h with
    | refusal h hp => exact ⟨h, hp⟩
  · rw [check]
    split_ifs with hv
    · refine Or.inl ⟨rfl, fun h => ?_⟩
      cases h with
      | mapping hno => simp [hv] at hno
    · exact Or.inr ⟨.mapping (by simpa using hv), _, rfl⟩

theorem fails_check_text_of_none {rule : TextRule} (hv : v.text? = none) :
    Fails (check (.text rule) path v) ↔ Stumbles (.text rule) path v := by
  refine fails_check_of_refuses (fun h => ?_) (Or.inr ⟨.text hv, _, by rw [check, hv]; rfl⟩)
  cases h with
  | refusal h hp => exact ⟨h, hp⟩
  | among hv' | binary hv' => simp [hv] at hv'

theorem fails_check_among {allowed : Value} {t : String} (hv : v.text? = some t) :
    Fails (check (.text (.among allowed)) path v) ↔ Stumbles (.text (.among allowed)) path v := by
  have htext : ∀ t', v.text? = some t' → t' = t := fun t' h => Option.some.inj (h.symm.trans hv)
  rw [check, hv]
  refine fails_checkText_among.trans ⟨?_, fun h => ?_⟩
  · rintro (h | ⟨h, hp⟩)
    · exact .among hv h
    · exact .refusal (.among hv h) hp
  · cases h with
    | among hv' h => exact Or.inl (htext _ hv' ▸ h)
    | refusal h hp =>
      cases h with
      | text hv' => simp [hv] at hv'
      | among hv' h => exact Or.inr ⟨htext _ hv' ▸ h, hp⟩

theorem fails_check_matching {source : String} {p : Pattern} {t : String} (hv : v.text? = some t) :
    Fails (check (.text (.matching source p)) path v) ↔
      Stumbles (.text (.matching source p)) path v := by
  refine fails_check_of_refuses (fun h => ?_) ?_
  · cases h with
    | refusal h hp => exact ⟨h, hp⟩
  · rw [check, hv]
    simp only [checkText]
    split_ifs with hs
    · refine Or.inl ⟨rfl, fun h => ?_⟩
      cases h with
      | text hno => simp [hv] at hno
      | matching hv' hno =>
        obtain rfl := Option.some.inj (hv'.symm.trans hv)
        simp [hs] at hno
    · exact Or.inr ⟨.matching hv (by simpa using hs), _, rfl⟩

theorem fails_check_text {rule : TextRule} :
    Fails (check (.text rule) path v) ↔ Stumbles (.text rule) path v := by
  cases hv : v.text? with
  | none => exact fails_check_text_of_none hv
  | some t =>
    cases rule with
    | free =>
      refine fails_check_of_refuses (fun h => ?_) (Or.inl ⟨by rw [check, hv]; rfl, fun h => ?_⟩)
      · cases h with
        | refusal h hp => exact ⟨h, hp⟩
      · cases h with
        | text hno => simp [hv] at hno
    | among allowed => exact fails_check_among hv
    | matching source p => exact fails_check_matching hv
    | binary =>
      rw [check, hv]
      exact iff_of_true ⟨_, rfl⟩ (.binary hv)

end

/-! ### Schemas with parts -/

theorem fails_checkLength {least most : Option Value} {path : Path} {n : Nat} :
    Fails (checkLength least most path n) ↔
      (∃ m, least = some m ∧
        (m.numeric? = none ∨ Value.less (.int n) m = .ok true ∧ Unwritten path)) ∨
      ∃ m, most = some m ∧
        (m.numeric? = none ∨ Value.less m (.int n) = .ok true ∧ Unwritten path) := by
  rw [checkLength, fails_append, fails_checkBound, fails_checkBound]
  simp only [Value.fails_less_int, Value.fails_less_to_int]

theorem fails_check_items {items : Schema} {least most : Option Value} {path : Path}
    {xs : List Value} : Fails (check (.array items least most) path (.list xs)) ↔
      (∃ (i : Nat) (x : Value), (Value.members xs)[i]? = some x ∧
        Fails (check items (path ++ [.str (toString i)]) x)) ∨
      Fails (checkLength least most path xs.length) := by
  have hcheck : check (.array items least most) path (.list xs) = (do
      let here ← (do
        let parts ← ((Value.members xs).mapIdx fun i x => (i, x)).mapM fun e =>
          check items (path ++ [.str (toString e.1)]) e.2
        return parts.flatten)
      return here ++ (← checkLength least most path xs.length)) := by
    rw [check, bind_assoc]
    simp only [pure_bind]
  rw [hcheck, fails_append, fails_flatten]
  refine or_congr_left ?_
  constructor
  · rintro ⟨e, he, hfails⟩
    obtain ⟨i, hi, rfl⟩ := List.mem_mapIdx.1 he
    exact ⟨i, _, List.getElem?_eq_getElem hi, hfails⟩
  · rintro ⟨i, x, hx, hfails⟩
    obtain ⟨hi, rfl⟩ := List.getElem?_eq_some_iff.1 hx
    exact ⟨(i, _), List.mem_mapIdx.2 ⟨i, hi, rfl⟩, hfails⟩

/-- No alternative fits exactly if each one has an objection. -/
theorem accepts_eq_false_iff {path : Path} {v : Value} : ∀ {ms : List Schema},
    accepts ms path v = .ok false ↔ ∀ m ∈ ms, Objects m path v
  | [] => by simp [accepts]
  | m :: ms => by
    rw [accepts, bind_eq_ok, List.forall_mem_cons, ← accepts_eq_false_iff]
    constructor
    · rintro ⟨es, hes, h⟩
      cases es with
      | nil => cases h
      | cons e es => exact ⟨⟨e, es, hes⟩, h⟩
    · rintro ⟨⟨e, es, hes⟩, h⟩
      exact ⟨e :: es, hes, h⟩

theorem fails_check_union {ms : List Schema} {path : Path} {v : Value} :
    Fails (check (.union ms) path v) ↔
      Fails (accepts ms path v) ∨ (∀ m ∈ ms, Objects m path v) ∧ Unwritten path := by
  rw [check, fails_bind, ← accepts_eq_false_iff]
  refine or_congr_right ?_
  constructor
  · rintro ⟨b, hb, h⟩
    cases b with
    | true => exact absurd h (not_fails_ok _)
    | false => exact ⟨hb, fails_oneError.1 h⟩
  · rintro ⟨hb, hp⟩
    exact ⟨false, hb, fails_oneError.2 hp⟩

theorem fails_check_array_of_ne {items : Schema} {least most : Option Value} {path : Path}
    {v : Value} (hv : ∀ xs, v ≠ .list xs) :
    Fails (check (.array items least most) path v) ↔ Stumbles (.array items least most) path v := by
  refine fails_check_of_refuses (fun h => ?_) (Or.inr ⟨.array hv, ?_⟩)
  · cases h with
    | refusal h hp => exact ⟨h, hp⟩
    | least | most | item => exact absurd rfl (hv _)
  · cases v with
    | list xs => exact absurd rfl (hv xs)
    | _ => exact ⟨_, rfl⟩

theorem fails_check_object_of_ne {required : List Value} {fields : List (Value × Schema)}
    {extra : List Value} {path : Path} {v : Value} (hv : ∀ es, v ≠ .map es) :
    Fails (check (.object required fields extra) path v) ↔
      Stumbles (.object required fields extra) path v := by
  refine fails_check_of_refuses (fun h => ?_) (Or.inr ⟨.object hv, ?_⟩)
  · cases h with
    | refusal h hp => exact ⟨h, hp⟩
    | field | missing | undeclared | order => exact absurd rfl (hv _)
  · cases v with
    | map es => exact absurd rfl (hv es)
    | _ => exact ⟨_, rfl⟩

theorem fails_check_entries {required : List Value} {fields : List (Value × Schema)}
    {extra : List Value} {path : Path} {es : Entries} :
    Fails (check (.object required fields extra) path (.map es)) ↔
      Fails (checkFields required (Entries.members es) fields path) ∨
        Fails (checkExtra extra (Entries.members es) path) :=
  fails_append

/-- The report of one field. -/
theorem fails_checkField {required : List Value} {es : Entries} {path : Path} {k : Value}
    {s : Schema} {fields : List (Value × Schema)} :
    Fails (checkFields required es ((k, s) :: fields) path) ↔
      ((∃ x, present? es k = some x ∧ Fails (check s (path ++ [k]) x)) ∨
        (∃ r ∈ required, k.same r = true) ∧ present? es k = none ∧ Unwritten (path ++ [k])) ∨
      Fails (checkFields required es fields path) := by
  rw [checkFields]
  cases hx : present? es k with
  | some x =>
    refine fails_append.trans (or_congr_left ?_)
    simp
  | none =>
    rw [← List.any_eq_true]
    dsimp only
    split_ifs with hr
    · refine fails_append.trans (or_congr_left ?_)
      simp [fails_missing, hr]
    · refine fails_append.trans (or_congr_left ?_)
      simp [not_fails_ok, hr]

/-! ### Stumbling case by case -/

theorem stumbles_union {ms : List Schema} {path : Path} {v : Value} :
    Stumbles (.union ms) path v ↔
      (∃ before m after, ms = before ++ m :: after ∧ (∀ b ∈ before, Objects b path v) ∧
        Stumbles m path v) ∨
      (∀ m ∈ ms, Objects m path v) ∧ Unwritten path := by
  constructor
  · intro h
    cases h with
    | refusal h => cases h
    | member hms hb hm => exact Or.inl ⟨_, _, _, hms, hb, hm⟩
    | nowhere h hp => exact Or.inr ⟨h, hp⟩
  · rintro (⟨before, m, after, hms, hb, hm⟩ | ⟨h, hp⟩)
    · exact .member hms hb hm
    · exact .nowhere h hp

theorem stumbles_list {items : Schema} {least most : Option Value} {path : Path} {xs : List Value} :
    Stumbles (.array items least most) path (.list xs) ↔
      (∃ (i : Nat) (x : Value), (Value.members xs)[i]? = some x ∧
        Stumbles items (path ++ [.str (toString i)]) x) ∨
      (∃ m, least = some m ∧ (m.numeric? = none ∨
        Value.less (.int xs.length) m = .ok true ∧ Unwritten path)) ∨
      ∃ m, most = some m ∧ (m.numeric? = none ∨
        Value.less m (.int xs.length) = .ok true ∧ Unwritten path) := by
  constructor
  · intro h
    cases h with
    | item hx h => exact Or.inl ⟨_, _, hx, h⟩
    | least hm => exact Or.inr (Or.inl ⟨_, rfl, Or.inl hm⟩)
    | most hm => exact Or.inr (Or.inr ⟨_, rfl, Or.inl hm⟩)
    | refusal h hp =>
      cases h with
      | array hv => exact absurd rfl (hv xs)
      | least hm => exact Or.inr (Or.inl ⟨_, rfl, Or.inr ⟨hm, hp⟩⟩)
      | most hm => exact Or.inr (Or.inr ⟨_, rfl, Or.inr ⟨hm, hp⟩⟩)
  · rintro (⟨i, x, hx, h⟩ | ⟨m, rfl, hm | ⟨hm, hp⟩⟩ | ⟨m, rfl, hm | ⟨hm, hp⟩⟩)
    · exact .item hx h
    · exact .least hm
    · exact .refusal (.least hm) hp
    · exact .most hm
    · exact .refusal (.most hm) hp

theorem stumbles_map {required : List Value} {fields : List (Value × Schema)} {extra : List Value}
    {path : Path} {es : Entries} :
    Stumbles (.object required fields extra) path (.map es) ↔
      (∃ f ∈ fields,
        (∃ x, present? (Entries.members es) f.1 = some x ∧ Stumbles f.2 (path ++ [f.1]) x) ∨
        (∃ r ∈ required, f.1.same r = true) ∧ present? (Entries.members es) f.1 = none ∧
          Unwritten (path ++ [f.1])) ∨
      Fails (Value.sorted extra) ∨
      ∃ k ∈ extra, present? (Entries.members es) k = none ∧ Unwritten (path ++ [k]) := by
  constructor
  · intro h
    cases h with
    | refusal h hp =>
      cases h with
      | object hv => exact absurd rfl (hv es)
    | field hf hx h => exact Or.inl ⟨_, hf, Or.inl ⟨_, hx, h⟩⟩
    | missing hf hr hx hp => exact Or.inl ⟨_, hf, Or.inr ⟨hr, hx, hp⟩⟩
    | undeclared hk hx hp => exact Or.inr (Or.inr ⟨_, hk, hx, hp⟩)
    | order h => exact Or.inr (Or.inl h)
  · rintro (⟨f, hf, ⟨x, hx, h⟩ | ⟨hr, hx, hp⟩⟩ | h | ⟨k, hk, hx, hp⟩)
    · exact .field hf hx h
    · exact .missing hf hr hx hp
    · exact .order h
    · exact .undeclared hk hx hp

mutual

/-- **What a check fails on**: it stumbles there, and there are no other ways to fail. -/
theorem fails_check : ∀ (s : Schema) (path : Path) (v : Value),
    Fails (check s path v) ↔ Stumbles s path v
  | .anything, _, _ => fails_check_anything
  | .text _, _, _ => fails_check_text
  | .number, _, _ => fails_check_number
  | .integer, _, _ => fails_check_integer
  | .boolean, _, _ => fails_check_boolean
  | .mapping, _, _ => fails_check_mapping
  | .union ms, path, v => by
    rw [fails_check_union, fails_accepts ms path v, stumbles_union]
  | .array items least most, path, v => by
    by_cases hv : ∀ xs, v ≠ .list xs
    · exact fails_check_array_of_ne hv
    push Not at hv
    obtain ⟨xs, rfl⟩ := hv
    rw [fails_check_items, fails_checkLength, stumbles_list]
    simp only [fails_check items]
  | .object required fields extra, path, v => by
    by_cases hv : ∀ es, v ≠ .map es
    · exact fails_check_object_of_ne hv
    push Not at hv
    obtain ⟨es, rfl⟩ := hv
    rw [fails_check_entries, fails_checkFields required _ fields path, fails_checkExtra, stumbles_map]
termination_by structural s => s

/-- Alternatives are tried in order, up to the first that fits. -/
theorem fails_accepts : ∀ (ms : List Schema) (path : Path) (v : Value),
    Fails (accepts ms path v) ↔ ∃ before m after, ms = before ++ m :: after ∧
      (∀ b ∈ before, Objects b path v) ∧ Stumbles m path v
  | [], path, v => iff_of_false (not_fails_ok _) (by simp)
  | m :: ms, path, v => by
    rw [accepts, fails_bind, fails_check m path v]
    constructor
    · rintro (h | ⟨es, hes, h⟩)
      · exact ⟨[], m, ms, rfl, by simp, h⟩
      · cases es with
        | nil => exact absurd h (not_fails_ok _)
        | cons e es =>
          obtain ⟨before, m', after, rfl, hb, hm⟩ := (fails_accepts ms path v).1 h
          exact ⟨m :: before, m', after, rfl, List.forall_mem_cons.2 ⟨⟨e, es, hes⟩, hb⟩, hm⟩
    · rintro ⟨before, m', after, hms, hb, hm⟩
      cases before with
      | nil =>
        cases hms
        exact Or.inl hm
      | cons b before =>
        obtain ⟨rfl, hrest⟩ := List.cons.inj hms
        obtain ⟨⟨e, es, hes⟩, hb⟩ := List.forall_mem_cons.1 hb
        exact Or.inr ⟨_, hes, (fails_accepts ms path v).2 ⟨before, m', after, hrest, hb, hm⟩⟩
termination_by structural ms => ms

theorem fails_checkFields (required : List Value) (es : Entries) :
    ∀ (fields : List (Value × Schema)) (path : Path),
      Fails (checkFields required es fields path) ↔ ∃ f ∈ fields,
        (∃ x, present? es f.1 = some x ∧ Stumbles f.2 (path ++ [f.1]) x) ∨
        (∃ r ∈ required, f.1.same r = true) ∧ present? es f.1 = none ∧ Unwritten (path ++ [f.1])
  | [], path => iff_of_false (not_fails_ok _) (by simp)
  | (k, s) :: fields, path => by
    rw [fails_checkField, fails_checkFields required es fields path, List.exists_mem_cons_iff]
    simp only [fails_check s]
termination_by structural fields => fields

end

/-! ### Schemas that nothing stumbles over -/

/-- **Nothing in a schema can fail a check**: its names are texts, its bounds numbers, its expressions
those for texts, and texts can be looked for in what it allows. -/
inductive Tame : Schema → Prop
  | anything : Tame .anything
  | union {ms : List Schema} (h : ∀ m ∈ ms, Tame m) : Tame (.union ms)
  | free : Tame (.text .free)
  | among {allowed : Value} (h : ∀ t, ¬ Fails (isAmong t allowed)) : Tame (.text (.among allowed))
  | matching {source : String} {p : Pattern} : Tame (.text (.matching source p))
  | number : Tame .number
  | integer : Tame .integer
  | boolean : Tame .boolean
  | array {items : Schema} {least most : Option Value} (hi : Tame items)
      (hl : ∀ m, least = some m → m.numeric? ≠ none) (hm : ∀ m, most = some m → m.numeric? ≠ none) :
      Tame (.array items least most)
  | mapping : Tame .mapping
  | object {required : List Value} {fields : List (Value × Schema)} {extra : List Value}
      (hk : ∀ f ∈ fields, ∃ name, f.1 = .str name) (hf : ∀ f ∈ fields, Tame f.2)
      (he : ∀ k ∈ extra, ∃ name, k = .str name) : Tame (.object required fields extra)

theorem Unwritten.of_snoc {path : Path} {name : String} (h : Unwritten (path ++ [.str name])) :
    Unwritten path := by
  obtain ⟨k, hk, hnone⟩ := h
  rcases List.mem_append.1 hk with hk | hk
  · exact ⟨k, hk, hnone⟩
  · rw [List.mem_singleton.1 hk] at hnone
    cases hnone

/-- All that a check of such a schema can stumble over is the way that it is given. -/
theorem Stumbles.unwritten {s : Schema} {path : Path} {v : Value} (h : Stumbles s path v)
    (hs : Tame s) : Unwritten path := by
  induction h with
  | refusal _ hp => exact hp
  | among _ h =>
    cases hs with
    | among hall => exact absurd h (hall _)
  | binary => cases hs
  | least hm =>
    cases hs with
    | array _ hl _ => exact absurd hm (hl _ rfl)
  | most hm =>
    cases hs with
    | array _ _ hl => exact absurd hm (hl _ rfl)
  | item _ _ ih =>
    cases hs with
    | array hi _ _ => exact (ih hi).of_snoc
  | member hms _ _ ih =>
    cases hs with
    | union hall => exact ih (hall _ (by simp [hms]))
  | nowhere _ hp => exact hp
  | field hf _ _ ih =>
    cases hs with
    | object hk htame _ =>
      obtain ⟨name, hname⟩ := hk _ hf
      exact (hname ▸ ih (htame _ hf)).of_snoc
  | missing hf _ _ hp =>
    cases hs with
    | object hk _ _ =>
      obtain ⟨name, hname⟩ := hk _ hf
      exact (hname ▸ hp).of_snoc
  | undeclared hk _ hp =>
    cases hs with
    | object _ _ he =>
      obtain ⟨name, rfl⟩ := he _ hk
      exact hp.of_snoc
  | order h =>
    cases hs with
    | object _ _ he =>
      obtain ⟨ks, hks, -⟩ := Value.exists_sorted he
      exact absurd h (not_fails_iff.2 ⟨ks, hks⟩)

theorem Tame.not_stumbles {s : Schema} (h : Tame s) (v : Value) : ¬ Stumbles s [] v := by
  intro hs
  obtain ⟨k, hk, -⟩ := hs.unwritten h
  cases hk

end Schema

end SlidePress
