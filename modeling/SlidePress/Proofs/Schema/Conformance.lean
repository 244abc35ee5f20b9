import SlidePress.Schema

/-! # What a schema declares

The schema language by its rules, apart from compiling and checking. `WellFormed` says which values
are schemas: every keyword that is there has its form, and so have the schemas inside, to any depth.
`Conforms` says which values a schema admits. A non-empty `oneOf` shadows all other keywords and a
non-empty `enum` the pattern; a schema that names no type declares an object, one with an unknown
type admits everything; null counts as missing, but only as the value of a field.

For each form of schema one rule applies, so conformance can be read off the keywords
(`conforms_oneOf_iff`, `conforms_string_iff` and so on). -/

namespace SlidePress

namespace Number

/-- A double is exactly an integer; infinities and what is not a number are not. -/
def Equals (x : Float) (n : Int) : Prop :=
  ∃ num den, toFraction? x = some (num, den) ∧ num = n * (den : Int)

theorem isWhole_iff {x : Float} : isWhole x = true ↔ ∃ n, Equals x n := by
  unfold isWhole Equals
  rcases toFraction? x with _ | ⟨num, den⟩
  · simp
  · simp only [beq_iff_eq, Option.some.injEq, Prod.mk.injEq]
    constructor
    · intro h
      obtain ⟨n, hn⟩ := Int.dvd_of_emod_eq_zero h
      exact ⟨n, num, den, ⟨rfl, rfl⟩, by rw [hn, Int.mul_comm]⟩
    · rintro ⟨n, _, _, ⟨rfl, rfl⟩, rfl⟩
      exact Int.mul_emod_left n _

end Number

namespace Schema

/-! ### The rules -/

/-- The types that a schema can declare. -/
def typeNames : List String := [ "string", "number", "integer", "boolean", "array", "object"]

/-- The declared type: an object where none is named. -/
def typeOf (es : Entries) : Value := (es.get? "type").getD (.str "object")

/-- A keyword lists some values, at least one. -/
def Lists (es : Entries) (keyword : String) (ms : List Value) : Prop :=
  es.getD keyword = .list ms ∧ ms ≠ []

/-- A keyword lists nothing. -/
def ListsNone (es : Entries) (keyword : String) : Prop := ∀ ms, ¬ Lists es keyword ms

/-- A keyword that is left out or holds a list. -/
def MaybeList (es : Entries) (keyword : String) : Prop :=
  es.getD keyword = .null ∨ ∃ ms, es.getD keyword = .list ms

/-- A keyword that is left out or holds an integer. -/
def MaybeInt (es : Entries) (keyword : String) : Prop :=
  es.getD keyword = .null ∨ ∃ n, es.getD keyword = .int n

/-- **The values that are schemas.** -/
inductive WellFormed : Value → Prop
  | intro {es : Entries} (type : (typeOf es).hashable = true)
      (oneOf : MaybeList es "oneOf")
      (members : ∀ ms, es.getD "oneOf" = .list ms → ∀ m ∈ ms, WellFormed m)
      (enum : MaybeList es "enum")
      (pattern : es.getD "pattern" = .null ∨
        ∃ source p, es.getD "pattern" = .str source ∧ Pattern.parse source = .ok p)
      (items : es.getD "items" ≠ .null → WellFormed (es.getD "items"))
      (minItems : MaybeInt es "minItems") (maxItems : MaybeInt es "maxItems")
      (properties : es.getD "properties" = .null ∨
        ∃ ps, es.getD "properties" = .map ps ∧ ∀ p ∈ ps, ∃ s, p.1 = .str s)
      (declared : ∀ ps, es.getD "properties" = .map ps → ∀ p ∈ ps, p.2 ≠ .null → WellFormed p.2)
      (required : es.getD "required" = .null ∨
        ∃ ks, es.getD "required" = .list ks ∧ ∀ k ∈ ks, ∃ s, k = .str s) :
      WellFormed (.map es)

/-- **The values that a schema admits.** A property that is declared without a schema is one that
has any mapping as its value. -/
inductive Conforms : Value → Value → Prop
  | oneOf {es : Entries} {ms : List Value} {m v : Value} (h : Lists es "oneOf" ms) (hm : m ∈ ms)
      (hv : Conforms m v) : Conforms (.map es) v
  | unknown {es : Entries} {v : Value} (h : ListsNone es "oneOf")
      (ht : ∀ name ∈ typeNames, typeOf es ≠ .str name) : Conforms (.map es) v
  | enum {es : Entries} {ms : List Value} {m v : Value} {s : String} (h : ListsNone es "oneOf")
      (ht : typeOf es = .str "string") (hv : v.text? = some s) (he : Lists es "enum" ms)
      (hm : m ∈ ms) (hs : m.text? = some s) : Conforms (.map es) v
  | string {es : Entries} {v : Value} {s : String} (h : ListsNone es "oneOf")
      (ht : typeOf es = .str "string") (hv : v.text? = some s) (he : ListsNone es "enum")
      (hp : ∀ source p, es.getD "pattern" = .str source → source ≠ "" →
        Pattern.parse source = .ok p → p.search s = true) : Conforms (.map es) v
  | number {es : Entries} {v : Value} (h : ListsNone es "oneOf") (ht : typeOf es = .str "number")
      (hv : v.isNumber = true) : Conforms (.map es) v
  | integer {es : Entries} {v : Value} {n : Int} (h : ListsNone es "oneOf")
      (ht : typeOf es = .str "integer") (hv : v = .int n ∨ ∃ x, v = .float x ∧ Number.Equals x n) :
      Conforms (.map es) v
  | boolean {es : Entries} {b : Bool} (h : ListsNone es "oneOf")
      (ht : typeOf es = .str "boolean") : Conforms (.map es) (.bool b)
  | array {es : Entries} {xs : List Value} (h : ListsNone es "oneOf")
      (ht : typeOf es = .str "array")
      (hi : es.getD "items" ≠ .null → ∀ x ∈ Value.members xs, Conforms (es.getD "items") x)
      (hl : ∀ n, es.getD "minItems" = .int n → n ≤ xs.length)
      (hm : ∀ n, es.getD "maxItems" = .int n → xs.length ≤ n) : Conforms (.map es) (.list xs)
  | mapping {es : Entries} {v : Value} (h : ListsNone es "oneOf") (ht : typeOf es = .str "object")
      (hp : es.getD "properties" = .null) (hv : v.isMap = true) : Conforms (.map es) v
  | object {es ps fs : Entries} (h : ListsNone es "oneOf") (ht : typeOf es = .str "object")
      (hp : es.getD "properties" = .map ps)
      (hd : ∀ p ∈ ps, ∀ x, present? fs.members p.1 = some x → Conforms (orNothing p.2) x)
      (hr : ∀ ks, es.getD "required" = .list ks → ∀ k ∈ ks, (present? fs.members k).isSome = true) :
      Conforms (.map es) (.map fs)

/-! ### One rule for each form -/

variable {es : Entries} {v : Value}

theorem Lists.truthy {keyword : String} {ms : List Value} (h : Lists es keyword ms) :
    (es.getD keyword).truthy = true := by
  rw [h.1]
  simpa [Value.truthy] using h.2

theorem MaybeList.cases {keyword : String} (h : MaybeList es keyword) :
    (∃ ms, Lists es keyword ms) ∨ ListsNone es keyword ∧ (es.getD keyword).truthy = false := by
  rcases h with h | ⟨ms, h⟩
  · refine Or.inr ⟨fun ms hl => ?_, by rw [h]; rfl⟩
    rw [Lists, h] at hl
    cases hl.1
  · by_cases hm : ms = []
    · refine Or.inr ⟨fun ms' hl => ?_, by rw [h, hm]; rfl⟩
      rw [Lists, h, hm] at hl
      obtain ⟨he, hne⟩ := hl
      cases he
      exact hne rfl
    · exact Or.inl ⟨ms, h, hm⟩

theorem conforms_oneOf_iff {ms : List Value} (h : Lists es "oneOf" ms) :
    Conforms (.map es) v ↔ ∃ m ∈ ms, Conforms m v := by
  constructor
  · intro hc
    cases hc with
    | oneOf h' hm hv =>
      obtain rfl : ms = _ := Value.list.inj (h.1.symm.trans h'.1)
      exact ⟨_, hm, hv⟩
    | unknown h' | enum h' | string h' | number h' | integer h' | boolean h' | array h'
    | mapping h' | object h' => exact absurd h (h' ms)
  · rintro ⟨m, hm, hv⟩
    exact .oneOf h hm hv

theorem conforms_string_iff (ho : ListsNone es "oneOf") (ht : typeOf es = .str "string") :
    Conforms (.map es) v ↔ ∃ s, v.text? = some s ∧
      ((∃ ms, Lists es "enum" ms ∧ ∃ m ∈ ms, m.text? = some s) ∨
        ListsNone es "enum" ∧ ∀ source p, es.getD "pattern" = .str source → source ≠ "" →
          Pattern.parse source = .ok p → p.search s = true) := by
  constructor
  · intro hc
    cases hc with
    | enum _ _ hv he hm hs => exact ⟨_, hv, Or.inl ⟨_, he, _, hm, hs⟩⟩
    | string _ _ hv he hp => exact ⟨_, hv, Or.inr ⟨he, hp⟩⟩
    | oneOf h => exact absurd h (ho _)
    | unknown _ ht' => exact absurd ht (ht' _ (by decide))
    | number _ ht' | integer _ ht' | boolean _ ht' | array _ ht' | mapping _ ht'
    | object _ ht' => simp [ht] at ht'
  · rintro ⟨s, hv, ⟨ms, he, m, hm, hs⟩ | ⟨he, hp⟩⟩
    · exact .enum ho ht hv he hm hs
    · exact .string ho ht hv he hp

theorem conforms_number_iff (ho : ListsNone es "oneOf") (ht : typeOf es = .str "number") :
    Conforms (.map es) v ↔ v.isNumber = true := by
  constructor
  · intro hc
    cases hc with
    | number _ _ hv => exact hv
    | oneOf h => exact absurd h (ho _)
    | unknown _ ht' => exact absurd ht (ht' _ (by decide))
    | enum _ ht' | string _ ht' | integer _ ht' | boolean _ ht' | array _ ht' | mapping _ ht'
    | object _ ht' => simp [ht] at ht'
  · exact .number ho ht

theorem conforms_integer_iff (ho : ListsNone es "oneOf") (ht : typeOf es = .str "integer") :
    Conforms (.map es) v ↔ ∃ n, v = .int n ∨ ∃ x, v = .float x ∧ Number.Equals x n := by
  constructor
  · intro hc
    cases hc with
    | integer _ _ hv => exact ⟨_, hv⟩
    | oneOf h => exact absurd h (ho _)
    | unknown _ ht' => exact absurd ht (ht' _ (by decide))
    | enum _ ht' | string _ ht' | number _ ht' | boolean _ ht' | array _ ht' | mapping _ ht'
    | object _ ht' => simp [ht] at ht'
  · rintro ⟨n, hv⟩
    exact .integer ho ht hv

theorem conforms_boolean_iff (ho : ListsNone es "oneOf") (ht : typeOf es = .str "boolean") :
    Conforms (.map es) v ↔ ∃ b, v = .bool b := by
  constructor
  · intro hc
    cases hc with
    | boolean => exact ⟨_, rfl⟩
    | oneOf h => exact absurd h (ho _)
    | unknown _ ht' => exact absurd ht (ht' _ (by decide))
    | enum _ ht' | string _ ht' | number _ ht' | integer _ ht' | array _ ht' | mapping _ ht'
    | object _ ht' => simp [ht] at ht'
  · rintro ⟨b, rfl⟩
    exact .boolean ho ht

theorem conforms_array_iff (ho : ListsNone es "oneOf") (ht : typeOf es = .str "array") :
    Conforms (.map es) v ↔ ∃ xs, v = .list xs ∧
      (es.getD "items" ≠ .null → ∀ x ∈ Value.members xs, Conforms (es.getD "items") x) ∧
      (∀ n, es.getD "minItems" = .int n → n ≤ xs.length) ∧
      (∀ n, es.getD "maxItems" = .int n → xs.length ≤ n) := by
  constructor
  · intro hc
    cases hc with
    | array _ _ hi hl hm => exact ⟨_, rfl, hi, hl, hm⟩
    | oneOf h => exact absurd h (ho _)
    | unknown _ ht' => exact absurd ht (ht' _ (by decide))
    | enum _ ht' | string _ ht' | number _ ht' | integer _ ht' | boolean _ ht' | mapping _ ht'
    | object _ ht' => simp [ht] at ht'
  · rintro ⟨xs, rfl, hi, hl, hm⟩
    exact .array ho ht hi hl hm

theorem conforms_mapping_iff (ho : ListsNone es "oneOf") (ht : typeOf es = .str "object")
    (hp : es.getD "properties" = .null) : Conforms (.map es) v ↔ v.isMap = true := by
  constructor
  · intro hc
    cases hc with
    | mapping _ _ _ hv => exact hv
    | object _ _ hp' => simp [hp] at hp'
    | oneOf h => exact absurd h (ho _)
    | unknown _ ht' => exact absurd ht (ht' _ (by decide))
    | enum _ ht' | string _ ht' | number _ ht' | integer _ ht' | boolean _ ht'
    | array _ ht' => simp [ht] at ht'
  · exact .mapping ho ht hp

theorem conforms_object_iff {ps : Entries} (ho : ListsNone es "oneOf")
    (ht : typeOf es = .str "object") (hp : es.getD "properties" = .map ps) :
    Conforms (.map es) v ↔ ∃ fs, v = .map fs ∧
      (∀ p ∈ ps, ∀ x, present? (Entries.members fs) p.1 = some x → Conforms (orNothing p.2) x) ∧
      ∀ ks, es.getD "required" = .list ks →
        ∀ k ∈ ks, (present? (Entries.members fs) k).isSome = true := by
  constructor
  · intro hc
    cases hc with
    | mapping _ _ hp' => simp [hp] at hp'
    | object _ _ hp' hd hr =>
      obtain rfl : ps = _ := Value.map.inj (hp.symm.trans hp')
      exact ⟨_, rfl, hd, hr⟩
    | oneOf h => exact absurd h (ho _)
    | unknown _ ht' => exact absurd ht (ht' _ (by decide))
    | enum _ ht' | string _ ht' | number _ ht' | integer _ ht' | boolean _ ht'
    | array _ ht' => simp [ht] at ht'
  · rintro ⟨fs, rfl, hd, hr⟩
    exact .object ho ht hp hd hr

end Schema

end SlidePress
