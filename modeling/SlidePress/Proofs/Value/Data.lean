import SlidePress.Proofs.Template.Talk
import SlidePress.Proofs.Value.Key

/-! # Data

The values that a document can hold: no undefined values, no marked-up texts and nothing that a
running template keeps, at any depth. What is taken out of data is data (`Value.isData_outOf`). -/

namespace SlidePress

mutual

/-- Whether a value is data that a document can hold. -/
def Value.isData : Value → Bool
  | .null | .bool _ | .int _ | .float _ | .str _ | .bytes _ | .date _ | .timestamp _ => true
  | .again _ _ => true
  | .list xs | .tuple xs | .set xs => Value.allData xs
  | .map es => Value.entriesData es
  | _ => false
termination_by structural v => v

/-- Whether all of some values are data. -/
def Value.allData : List Value → Bool
  | [] => true
  | x :: xs => Value.isData x && Value.allData xs
termination_by structural vs => vs

/-- Whether the keys and values of some entries are data. -/
def Value.entriesData : List (Value × Value) → Bool
  | [] => true
  | (k, v) :: es => Value.isData k && Value.isData v && Value.entriesData es
termination_by structural es => es

end

namespace Value

theorem allData_iff {xs : List Value} : allData xs = true ↔ ∀ x ∈ xs, x.isData = true := by
  induction xs with
  | nil => simp [allData]
  | cons x xs ih => simp [allData, ih]

theorem entriesData_iff {es : Entries} :
    entriesData es = true ↔ ∀ e ∈ es, e.1.isData = true ∧ e.2.isData = true := by
  induction es with
  | nil => simp [entriesData]
  | cons e es ih => simp [entriesData, ih, and_assoc]

theorem direct_of_isData {v : Value} (h : v.isData = true) : v.direct = true := by
  cases v <;> simp_all [isData, direct]

/-- The items of data are data. -/
theorem isData_of_mem_items {v : Value} {xs : List Value} (h : v.isData = true)
    (hxs : v.items? = some xs) : ∀ x ∈ xs, x.isData = true := by
  cases v with
  | list ys | tuple ys | set ys =>
    cases hxs
    exact allData_iff.1 h
  | map es =>
    cases hxs
    intro x hx
    obtain ⟨e, he, rfl⟩ := List.mem_map.1 hx
    exact (entriesData_iff.1 h e he).1
  | str s | bytes s =>
    cases hxs
    intro x hx
    obtain ⟨c, -, rfl⟩ := List.mem_map.1 hx
    rfl
  | markup _ | range _ _ _ | undefined | method _ _ | ref _ => cases h
  | _ => cases hxs

/-- A text among data is a plain one. -/
theorem eq_str_of_text? {v : Value} {s : String} (h : v.isData = true) (hs : v.text? = some s) :
    v = .str s := by
  cases v with
  | str t => exact congrArg _ (Option.some.inj hs)
  | markup t => cases h
  | _ => cases hs

mutual

/-- Data taken out of data is data. -/
theorem isData_outOf {whole : Value} (hw : whole.isData = true) (depth : Nat) :
    ∀ {v : Value}, v.isData = true → (outOf whole depth v).isData = true
  | .list _, h => allData_outOfList hw (depth + 1) h
  | .tuple _, h => allData_outOfList hw depth h
  | .map _, h => entriesData_outOfEntries hw (depth + 1) h
  | .again up _, _ => by
    rw [outOf]
    split_ifs
    · exact hw
    · rfl
  | .null, h | .bool _, h | .int _, h | .float _, h | .str _, h | .bytes _, h | .date _, h
  | .timestamp _, h | .set _, h => h

theorem allData_outOfList {whole : Value} (hw : whole.isData = true) (depth : Nat) :
    ∀ {xs : List Value}, allData xs = true → allData (outOfList whole depth xs) = true
  | [], _ => rfl
  | x :: xs, h => by
    obtain ⟨hx, hxs⟩ := Bool.and_eq_true_iff.1 h
    exact Bool.and_eq_true_iff.2 ⟨isData_outOf hw depth hx, allData_outOfList hw depth hxs⟩

theorem entriesData_outOfEntries {whole : Value} (hw : whole.isData = true) (depth : Nat) :
    ∀ {es : List (Value × Value)}, entriesData es = true →
      entriesData (outOfEntries whole depth es) = true
  | [], _ => rfl
  | (k, v) :: es, h => by
    obtain ⟨hkv, hes⟩ := Bool.and_eq_true_iff.1 h
    obtain ⟨hk, hv⟩ := Bool.and_eq_true_iff.1 hkv
    exact Bool.and_eq_true_iff.2 ⟨Bool.and_eq_true_iff.2 ⟨hk, isData_outOf hw depth hv⟩,
      entriesData_outOfEntries hw depth hes⟩

end

theorem allData_members {xs : List Value} (h : (list xs).isData = true) :
    allData (members xs) = true :=
  allData_outOfList h 0 h

end Value

namespace Entries

theorem isData_members {es : Entries} (h : (Value.map es).isData = true) :
    (Value.map es.members).isData = true :=
  Value.entriesData_outOfEntries h 0 h

/-- A field of data is data, or it is missing. -/
theorem part_cases {es : Entries} (h : (Value.map es).isData = true) (name : String) :
    es.part name = .undefined ∨ (es.part name).isData = true ∧ es.get? name = some (es.part name) := by
  unfold part
  rcases hget : es.get? name with _ | v
  · exact .inl rfl
  · obtain ⟨k, hk⟩ := mem_of_find? hget
    exact .inr ⟨(Value.entriesData_iff.1 h _ hk).2, rfl⟩

theorem direct_part {es : Entries} (h : (Value.map es).isData = true) (name : String) :
    (es.part name).direct = true := by
  rcases part_cases h name with hp | ⟨hp, -⟩
  · rw [hp]
    rfl
  · exact Value.direct_of_isData hp

/-- The items of a field of data are data. -/
theorem isData_of_mem_items_part {es : Entries} (h : (Value.map es).isData = true) {name : String}
    {xs : List Value} (hxs : (es.part name).items? = some xs) {x : Value} (hx : x ∈ xs) :
    x.isData = true := by
  rcases part_cases h name with hp | ⟨hp, -⟩
  · rw [hp] at hxs
    cases hxs
    cases hx
  · exact Value.isData_of_mem_items hp hxs x hx

end Entries

end SlidePress
