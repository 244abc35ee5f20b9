import SlidePress.Proofs.Yaml.Data
import SlidePress.Proofs.Yaml.Scalar
import SlidePress.Proofs.Yaml.Steps

/-! # Where a document cannot be built

A fault of a document has a place: the way to it from the root, in numbers of parts (`FaultAt`).
Either the text of a node does not stand for a value of its tag, or a collection has not the content
its tag asks for, or a key is a collection. A place comes before another if it is nearer to the
root, or as near and further left (`Before`).

**A document is built exactly if it has no fault, and otherwise the fault that is reported is that of
the first place** (`data_eq_error_iff`): the levels that a build carries are the lengths of the ways
(`finds_build`), and of several parts that go wrong `Build.all` picks the first (`finds_all`). The
number of steps plays no role in this.

Most faults are those of malformed data. The others are faults of a scalar: its text cannot be
converted to the type of its tag, or there is no end to the way to its text
(`exists_inconvertible`). -/

namespace SlidePress.Yaml

open Attempt (bind_eq_ok map_eq_ok)

/-! ### Places -/

/-- A place comes before another: it is nearer to the root, or as near and further left. -/
def Before (v w : List Nat) : Prop :=
  v.length < w.length ∨ v.length = w.length ∧ List.Lex (· < ·) v w

theorem not_before_self (v : List Nat) : ¬ Before v v := by
  rintro (h | ⟨-, h⟩)
  · exact Nat.lt_irrefl _ h
  · exact List.lex_irrefl Nat.lt_irrefl v h

/-- Two places of which none comes before the other are the same. -/
theorem eq_of_not_before {v w : List Nat} (hvw : ¬ Before v w) (hwv : ¬ Before w v) : v = w := by
  unfold Before at hvw hwv
  have hlength : v.length = w.length := by omega
  refine List.lex_trichotomous (r := (· < ·)) (fun x y hxy hyx => ?_) ?_ ?_
  · omega
  · exact fun h => hwv (.inr ⟨hlength.symm, h⟩)
  · exact fun h => hvw (.inr ⟨hlength, h⟩)

theorem not_before_cons {i : Nat} {v w : List Nat} (h : ¬ Before v w) :
    ¬ Before (i :: v) (i :: w) := by
  unfold Before at h ⊢
  simp only [List.length_cons]
  rintro (hlength | ⟨hlength, hlex⟩)
  · exact h (.inl (by omega))
  · refine h (.inr ⟨by omega, ?_⟩)
    cases hlex with
    | rel hii => exact absurd hii (Nat.lt_irrefl i)
    | cons hlex => exact hlex

/-- Of two places that are equally near, the one with the smaller first number comes first. -/
theorem not_before_of_lt {i j : Nat} {v w : List Nat} (hij : i < j) (h : v.length ≤ w.length) :
    ¬ Before (j :: w) (i :: v) := by
  unfold Before
  simp only [List.length_cons]
  rintro (hlength | ⟨-, hlex⟩)
  · omega
  · cases hlex with
    | rel hji => omega
    | cons => omega

theorem length_le_of_not_before {v w : List Nat} (h : ¬ Before w v) : v.length ≤ w.length := by
  unfold Before at h
  omega

/-- What a build reports agrees with the faults below a node on some level: nothing if there is
none, and else the one of the first place. -/
def Finds (level : Nat) (T : List Nat → Fault → Prop) : Option (Nat × Fault) → Prop
  | none => ∀ w f, ¬ T w f
  | some (l, f) => ∃ w, T w f ∧ l = level + w.length ∧ ∀ w' f', T w' f' → ¬ Before w' w

theorem Finds.congr {level : Nat} {T T' : List Nat → Fault → Prop} {o : Option (Nat × Fault)}
    (h : Finds level T o) (hT : ∀ w f, T w f ↔ T' w f) : Finds level T' o := by
  have heq : T = T' := funext fun w => funext fun f => propext (hT w f)
  exact heq ▸ h

/-- Faults at one place only are found there. -/
theorem finds_of_forall_eq {level : Nat} {T : List Nat → Fault → Prop} {v : List Nat} {f : Fault}
    (hv : T v f) (h : ∀ w g, T w g → w = v) : Finds level T (some (level + v.length, f)) :=
  ⟨v, hv, rfl, fun w g hw => h w g hw ▸ not_before_self v⟩

/-- The faults of `n` parts, numbered from `k`, each of which has its own. -/
def Among (k n : Nat) (T : Nat → List Nat → Fault → Prop) (w : List Nat) (f : Fault) : Prop :=
  ∃ i v, w = i :: v ∧ k ≤ i ∧ i < k + n ∧ T i v f

theorem among_succ_iff {k n : Nat} {T : Nat → List Nat → Fault → Prop} {w : List Nat} {f : Fault} :
    Among k (n + 1) T w f ↔ (∃ v, w = k :: v ∧ T k v f) ∨ Among (k + 1) n T w f := by
  constructor
  · rintro ⟨i, v, rfl, hk, hn, hT⟩
    rcases Nat.eq_or_lt_of_le hk with rfl | hk
    · exact .inl ⟨v, rfl, hT⟩
    · exact .inr ⟨i, v, rfl, hk, by omega, hT⟩
  · rintro (⟨v, rfl, hT⟩ | ⟨i, v, rfl, hk, hn, hT⟩)
    · exact ⟨k, v, rfl, le_rfl, by omega, hT⟩
    · exact ⟨i, v, rfl, by omega, by omega, hT⟩

namespace Build

variable {α β : Type}

/-- The fault of a build. -/
def fault? : Build α → Option (Nat × Fault)
  | .ok _ => none
  | .error e => some e

theorem fault?_all (rs : List (Build α)) : (all rs).fault? = first (faults rs) := by
  unfold all
  cases first (faults rs) <;> rfl

/-- What is made of the results does not fail by itself. -/
theorem fault?_map (r : Build α) (g : α → β) : (do return g (← r) : Build β).fault? = r.fault? := by
  cases r <;> rfl

/-- **The first fault of several parts** is the one that is picked. -/
theorem finds_all {level : Nat} {T : Nat → List Nat → Fault → Prop} :
    ∀ {k : Nat} {rs : List (Build α)},
      (∀ i r, rs[i]? = some r → Finds (level + 1) (T (k + i)) r.fault?) →
        Finds level (Among k rs.length T) (all rs).fault?
  | k, [], _ => by
    rintro w f ⟨i, v, -, hk, hn, -⟩
    rw [List.length_nil] at hn
    omega
  | k, r :: rs, h => by
    have hhead : Finds (level + 1) (T k) r.fault? := h 0 r rfl
    have hrest : Finds level (Among (k + 1) rs.length T) (all rs).fault? := by
      refine finds_all fun i s hs => ?_
      have hi := h (i + 1) s hs
      rwa [← Nat.add_assoc, Nat.add_right_comm] at hi
    rw [fault?_all] at hrest ⊢
    cases r with
    | ok a =>
      refine hrest.congr fun w f => ?_
      have hnone : ¬ ∃ v, w = k :: v ∧ T k v f := fun ⟨v, _, hT⟩ => hhead v f hT
      rw [List.length_cons, among_succ_iff, or_iff_right hnone]
    | error e =>
      obtain ⟨l, f⟩ := e
      obtain ⟨v, hv, rfl, hmin⟩ := hhead
      have hwithin : Among k (rs.length + 1) T (k :: v) f := among_succ_iff.2 (.inl ⟨v, rfl, hv⟩)
      have hlevel : level + 1 + v.length = level + (k :: v).length := by
        rw [List.length_cons]
        omega
      show Finds level _ (first ((level + 1 + v.length, f) :: faults rs))
      rw [first]
      cases hfirst : first (faults rs) with
      | none =>
        rw [hfirst] at hrest
        refine ⟨k :: v, hwithin, hlevel, fun w f' hw => ?_⟩
        rcases among_succ_iff.1 hw with ⟨v', rfl, hv'⟩ | hw
        · exact not_before_cons (hmin v' f' hv')
        · exact absurd hw (hrest w f')
      | some e =>
        rw [hfirst] at hrest
        obtain ⟨l', g⟩ := e
        obtain ⟨w, hw, rfl, hleast⟩ := hrest
        dsimp only
        by_cases hnear : level + w.length < level + 1 + v.length
        · rw [if_pos hnear]
          refine ⟨w, among_succ_iff.2 (.inr hw), rfl, fun w' f' hw' => ?_⟩
          rcases among_succ_iff.1 hw' with ⟨v', rfl, hv'⟩ | hw'
          · have hlength : v.length ≤ v'.length := length_le_of_not_before (hmin v' f' hv')
            unfold Before
            rw [List.length_cons]
            omega
          · exact hleast w' f' hw'
        · rw [if_neg hnear]
          refine ⟨k :: v, hwithin, hlevel, fun w' f' hw' => ?_⟩
          rcases among_succ_iff.1 hw' with ⟨v', rfl, hv'⟩ | hw'
          · exact not_before_cons (hmin v' f' hv')
          · have hlength : w.length ≤ w'.length := length_le_of_not_before (hleast w' f' hw')
            obtain ⟨i, v', rfl, hi, -, -⟩ := hw'
            rw [List.length_cons] at hlength
            exact not_before_of_lt hi (by omega)

end Build

/-! ### The faults of a document -/

/-- A part of a collection: a node, or something that cannot stand where it stands. -/
inductive Part where
  | node (n : Node)
  | misfit

namespace Document

variable {d : Document}

/-- The key and the value of a pair: a collection cannot be a key. -/
def partsOfPair (d : Document) (p : Node × Node) : List Part :=
  [if (d.tagOf p.1).isCollection then .misfit else .node p.1, .node p.2]

/-- The key and the value of an item that has to be a mapping of one pair. -/
def partsOfItem (d : Document) (i : Node) : List Part :=
  match d.onePair i with
  | .ok p => [.node p.1, .node p.2]
  | .error _ => [.misfit]

/-- The parts of a collection, in the order in which they are built; a node of another kind than its
tag says has none. -/
def parts (d : Document) (fuel : Nat) (node : Node) : Attempt (List Part) :=
  match d.tagOf node, d.target node with
  | .seq, .sequence _ _ _ items => .ok (items.map .node)
  | .map, .mapping name _ _ pairs => (d.flatten fuel [name] pairs).map (·.flatMap d.partsOfPair)
  | .set, .mapping name _ _ pairs => (d.flatten fuel [name] pairs).map (·.flatMap d.partsOfPair)
  | .omap, .sequence _ _ _ items => .ok (items.flatMap d.partsOfItem)
  | .pairs, .sequence _ _ _ items => .ok (items.flatMap d.partsOfItem)
  | _, _ => .error .malformedYaml

/-- The value of a node that is no collection: that of its text. -/
def leaf (d : Document) (fuel : Nat) (node : Node) : Attempt Value :=
  let tag := d.tagOf node
  if tag == .unknown || tag == .merge || tag == .value then .error .malformedYaml
  else do scalarOf tag (← d.textOf fuel node)

/-- What a part is built as. -/
def buildPart (level : Nat) (child : Node → Build Value) : Part → Build Value
  | .node n => child n
  | .misfit => misfit level

/-- The node does not stand in itself. -/
def Fresh (d : Document) (opened : List (Option String)) (node : Node) : Prop :=
  ∀ name, nameOf (d.target node) = some name → some name ∉ opened

/-- A fault of a node that stands in the collections `opened`, and the way to its place. A node that
stands in itself is not looked at again. -/
inductive FaultAt (d : Document) : List (Option String) → Node → List Nat → Fault → Prop
  | leaf {opened : List (Option String)} {node : Node} {f : Fault} : d.Fresh opened node →
      (d.tagOf node).isCollection = false → Settles (fun n => d.leaf n node) (.error f) →
      FaultAt d opened node [] f
  | content {opened : List (Option String)} {node : Node} {f : Fault} : d.Fresh opened node →
      (d.tagOf node).isCollection = true → Settles (fun n => d.parts n node) (.error f) →
      FaultAt d opened node [0] f
  | misfit {opened : List (Option String)} {node : Node} {ps : List Part} {i : Nat} :
      d.Fresh opened node → (d.tagOf node).isCollection = true →
      Settles (fun n => d.parts n node) (.ok ps) → ps[i]? = some .misfit →
      FaultAt d opened node [i] .malformedYaml
  | part {opened : List (Option String)} {node n : Node} {ps : List Part} {i : Nat} {w : List Nat}
      {f : Fault} : d.Fresh opened node → (d.tagOf node).isCollection = true →
      Settles (fun n => d.parts n node) (.ok ps) → ps[i]? = some (.node n) →
      FaultAt d (nameOf (d.target node) :: opened) n w f → FaultAt d opened node (i :: w) f

/-- At one place there is one fault. -/
theorem FaultAt.unique {opened : List (Option String)} {node : Node} {w : List Nat} {f g : Fault}
    (hf : d.FaultAt opened node w f) (hg : d.FaultAt opened node w g) : f = g := by
  induction hf with
  | leaf _ htag hleaf =>
    cases hg with
    | leaf _ _ hleaf' =>
      cases hleaf.unique hleaf'
      rfl
  | content _ htag hparts =>
    cases hg with
    | content _ _ hparts' =>
      cases hparts.unique hparts'
      rfl
    | misfit _ _ hparts' => cases hparts.unique hparts'
    | part _ _ hparts' => cases hparts.unique hparts'
  | misfit _ htag hparts hi =>
    cases hg with
    | content _ _ hparts' => cases hparts.unique hparts'
    | misfit => rfl
    | part _ _ hparts' hi' =>
      cases hparts.unique hparts'
      rw [hi] at hi'
      cases hi'
  | part _ htag hparts hi _ ih =>
    cases hg with
    | content _ _ hparts' => cases hparts.unique hparts'
    | misfit _ _ hparts' hi' =>
      cases hparts.unique hparts'
      rw [hi] at hi'
      cases hi'
    | part _ _ hparts' hi' h' =>
      cases hparts.unique hparts'
      rw [hi] at hi'
      cases hi'
      exact ih h'

theorem FaultAt.fresh {opened : List (Option String)} {node : Node} {w : List Nat} {f : Fault}
    (h : d.FaultAt opened node w f) : d.Fresh opened node := by
  cases h <;> assumption

section

variable {opened : List (Option String)} {node : Node} {w : List Nat} {f : Fault}

/-- A node that is no collection has at most one fault. -/
theorem faultAt_leaf_iff (hfresh : d.Fresh opened node) (htag : (d.tagOf node).isCollection = false) :
    d.FaultAt opened node w f ↔ w = [] ∧ Settles (fun n => d.leaf n node) (.error f) := by
  constructor
  · intro h
    cases h with
    | leaf _ _ hleaf => exact ⟨rfl, hleaf⟩
    | content _ htag' => simp [htag] at htag'
    | misfit _ htag' => simp [htag] at htag'
    | part _ htag' => simp [htag] at htag'
  · rintro ⟨rfl, hleaf⟩
    exact .leaf hfresh htag hleaf

/-- So has a collection that has not the content its tag asks for. -/
theorem faultAt_content_iff {g : Fault} (hfresh : d.Fresh opened node)
    (htag : (d.tagOf node).isCollection = true)
    (hparts : Settles (fun n => d.parts n node) (.error g)) :
    d.FaultAt opened node w f ↔ w = [0] ∧ f = g := by
  constructor
  · intro h
    cases h with
    | leaf _ htag' => simp [htag] at htag'
    | content _ _ hparts' =>
      cases hparts.unique hparts'
      exact ⟨rfl, rfl⟩
    | misfit _ _ hparts' => cases hparts.unique hparts'
    | part _ _ hparts' => cases hparts.unique hparts'
  · rintro ⟨rfl, rfl⟩
    exact .content hfresh htag hparts

/-- The faults of one of some parts. -/
def FaultOfPart (d : Document) (opened : List (Option String)) (ps : List Part) (i : Nat)
    (v : List Nat) (f : Fault) : Prop :=
  match ps[i]? with
  | some (.node n) => d.FaultAt opened n v f
  | some .misfit => v = [] ∧ f = .malformedYaml
  | none => False

/-- A collection with parts has their faults. -/
theorem faultAt_parts_iff {ps : List Part} (hfresh : d.Fresh opened node)
    (htag : (d.tagOf node).isCollection = true)
    (hparts : Settles (fun n => d.parts n node) (.ok ps)) :
    d.FaultAt opened node w f ↔
      Among 0 ps.length (d.FaultOfPart (nameOf (d.target node) :: opened) ps) w f := by
  constructor
  · intro h
    cases h with
    | leaf _ htag' => simp [htag] at htag'
    | content _ _ hparts' => cases hparts.unique hparts'
    | @misfit _ _ _ i _ _ hparts' hi =>
      cases hparts.unique hparts'
      obtain ⟨hlt, -⟩ := List.getElem?_eq_some_iff.1 hi
      refine ⟨i, [], rfl, Nat.zero_le i, by omega, ?_⟩
      unfold FaultOfPart
      rw [hi]
      exact ⟨rfl, rfl⟩
    | @part _ _ n _ i v _ _ _ hparts' hi h =>
      cases hparts.unique hparts'
      obtain ⟨hlt, -⟩ := List.getElem?_eq_some_iff.1 hi
      refine ⟨i, v, rfl, Nat.zero_le i, by omega, ?_⟩
      unfold FaultOfPart
      rw [hi]
      exact h
  · rintro ⟨i, v, rfl, -, -, h⟩
    unfold FaultOfPart at h
    cases hi : ps[i]? with
    | none =>
      rw [hi] at h
      exact h.elim
    | some p =>
      rw [hi] at h
      cases p with
      | node n => exact .part hfresh htag hparts hi h
      | misfit =>
        obtain ⟨rfl, rfl⟩ := h
        exact .misfit hfresh htag hparts hi

end

/-! ### What one step of the building reports -/

section

variable {fuel level : Nat} {child : Node → Build Value} {node : Node}

theorem map_buildPart_pairs (pairs : List (Node × Node)) :
    (pairs.flatMap d.partsOfPair).map (buildPart level child) =
      pairs.flatMap fun p => [d.buildKey level child p.1, child p.2] := by
  rw [List.map_flatMap]
  refine List.flatMap_congr fun p _ => ?_
  unfold partsOfPair buildKey
  split <;> rfl

theorem map_buildPart_items (items : List Node) :
    (items.flatMap d.partsOfItem).map (buildPart level child) = items.flatMap fun i =>
      match d.onePair i with
      | .ok p => [child p.1, child p.2]
      | .error _ => [misfit level] := by
  rw [List.map_flatMap]
  refine List.flatMap_congr fun i _ => ?_
  unfold partsOfItem
  cases d.onePair i <;> rfl

theorem fault?_buildEntries (pairs : List (Node × Node)) :
    (d.buildEntries level child pairs).fault? =
      (Build.all ((pairs.flatMap d.partsOfPair).map (buildPart level child))).fault? := by
  rw [map_buildPart_pairs]
  exact Build.fault?_map _ _

theorem fault?_buildPairs (items : List Node) :
    (d.buildPairs level child items).fault? =
      (Build.all ((items.flatMap d.partsOfItem).map (buildPart level child))).fault? := by
  rw [map_buildPart_items]
  exact Build.fault?_map _ _

/-- **A collection** reports what is wrong with its content, or the first fault of its parts. -/
theorem fault?_buildStep_collection (h : (d.tagOf node).isCollection = true) :
    (d.buildStep fuel level child node).fault? = (do
      let ps ← Build.atLevel (level + 1) (d.parts fuel node)
      Build.all (ps.map (buildPart level child)) : Build (List Value)).fault? := by
  have hpairs : ∀ (name : String) (pairs : List (Node × Node)) (make : Entries → Value),
      (do
        let ps ← Build.atLevel (level + 1) (d.flatten fuel [name] pairs)
        return make (← d.buildEntries level child ps) : Build Value).fault? = (do
          let ps ← Build.atLevel (level + 1)
            ((d.flatten fuel [name] pairs).map (·.flatMap d.partsOfPair))
          Build.all (ps.map (buildPart level child)) : Build (List Value)).fault? := by
    intro name pairs make
    cases d.flatten fuel [name] pairs with
    | error f => rfl
    | ok ps => exact (Build.fault?_map _ make).trans (fault?_buildEntries ps)
  have hitems : ∀ items : List Node,
      (do return .list (← d.buildPairs level child items) : Build Value).fault? =
        (Build.all ((items.flatMap d.partsOfItem).map (buildPart level child))).fault? :=
    fun items => (Build.fault?_map _ _).trans (fault?_buildPairs items)
  unfold buildStep parts
  cases htag : d.tagOf node <;> rw [htag] at h <;> cases h <;> cases d.target node
  case seq.refl.sequence name line tag items =>
    have hmap : (items.map Part.node).map (buildPart level child) = items.map child :=
      List.map_map
    exact (Build.fault?_map _ _).trans (congrArg (fun rs => (Build.all rs).fault?) hmap.symm)
  case map.refl.mapping name line tag pairs => exact hpairs name pairs .map
  case set.refl.mapping name line tag pairs => exact hpairs name pairs fun es => .set (es.map Prod.fst)
  case omap.refl.sequence name line tag items => exact hitems items
  case pairs.refl.sequence name line tag items => exact hitems items
  -- a node of another kind than its tag says
  all_goals rfl

/-- **A node of another kind** reports what is wrong with its text. -/
theorem fault?_buildStep_leaf (h : (d.tagOf node).isCollection = false) :
    (d.buildStep fuel level child node).fault? =
      (Build.atLevel level (d.leaf fuel node)).fault? := by
  have hstep : d.buildStep fuel level child node =
      if d.tagOf node == .unknown || d.tagOf node == .merge || d.tagOf node == .value then
        .error (level, .malformedYaml)
      else Build.atLevel level (do scalarOf (d.tagOf node) (← d.textOf fuel node)) := by
    unfold buildStep
    cases htag : d.tagOf node <;> rw [htag] at h <;> cases h <;> rfl
  rw [hstep]
  unfold leaf
  dsimp only
  split <;> rfl

end

/-! ### The number of steps -/

/-- The parts of a collection are settled after the steps that merging takes. -/
theorem parts_sound {node : Node} (h : d.Has node) :
    Sound (3 * d.nodes.length + 3) fun n => d.parts n node := by
  have hpairs : ∀ {name line tag pairs}, d.target node = .mapping name line tag pairs →
      Sound (3 * d.nodes.length + 3) fun n =>
        (d.flatten n [name] pairs).map (·.flatMap d.partsOfPair) :=
    fun ht => (flatten_sound _ fun p hp => h.pair ht hp).map _
  unfold parts
  cases d.tagOf node <;> cases ht : d.target node
  case map.mapping => exact hpairs ht
  case set.mapping => exact hpairs ht
  case seq.sequence => exact .ok _
  case omap.sequence => exact .ok _
  case pairs.sequence => exact .ok _
  all_goals exact .malformed

theorem has_of_mem_partsOfPair {p : Node × Node} {n : Node} (hkey : d.Has p.1) (hvalue : d.Has p.2)
    (hn : .node n ∈ d.partsOfPair p) : d.Has n := by
  unfold partsOfPair at hn
  rcases List.mem_pair.1 hn with hn | hn
  · split at hn
    · cases hn
    · cases hn
      exact hkey
  · cases hn
    exact hvalue

theorem has_of_mem_partsOfItem {i n : Node} (hi : d.Has i) (hn : .node n ∈ d.partsOfItem i) :
    d.Has n := by
  unfold partsOfItem onePair at hn
  split at hn
  · rename_i p hp
    split at hp
    · rename_i hti
      cases hp
      obtain ⟨hkey, hvalue⟩ := hi.pair hti (List.mem_singleton_self p)
      rcases List.mem_pair.1 hn with hn | hn
      · cases hn
        exact hkey
      · cases hn
        exact hvalue
    · cases hp
  · cases List.mem_singleton.1 hn

/-- The parts of a node of the document are nodes of the document. -/
theorem has_of_mem_parts {node n : Node} {fuel : Nat} {ps : List Part} (h : d.Has node)
    (hps : d.parts fuel node = .ok ps) (hn : .node n ∈ ps) : d.Has n := by
  have hpairs : ∀ {name line tag pairs}, d.target node = .mapping name line tag pairs →
      (d.flatten fuel [name] pairs).map (·.flatMap d.partsOfPair) = .ok ps → d.Has n := by
    intro name line tag pairs ht hmap
    obtain ⟨qs, hqs, rfl⟩ := map_eq_ok.1 hmap
    obtain ⟨p, hp, hn⟩ := List.mem_flatMap.1 hn
    obtain ⟨hkey, hvalue⟩ := (merging_hasAll fuel).1 _ _ _ (fun p hp => h.pair ht hp) hqs p hp
    exact has_of_mem_partsOfPair hkey hvalue hn
  have hitems : ∀ {name line tag items}, d.target node = .sequence name line tag items →
      .ok (items.flatMap d.partsOfItem) = Except.ok (ε := Fault) ps → d.Has n := by
    intro name line tag items ht hmap
    cases hmap
    obtain ⟨i, hi, hn⟩ := List.mem_flatMap.1 hn
    exact has_of_mem_partsOfItem (h.item ht hi) hn
  unfold parts at hps
  cases htag : d.tagOf node <;> cases ht : d.target node <;> rw [htag, ht] at hps
  case map.mapping => exact hpairs ht hps
  case set.mapping => exact hpairs ht hps
  case seq.sequence name line tag items =>
    cases hps
    obtain ⟨i, hi, hin⟩ := List.mem_map.1 hn
    cases hin
    exact h.item ht hi
  case omap.sequence => exact hitems ht hps
  case pairs.sequence => exact hitems ht hps
  all_goals cases hps

/-- A collection that has parts has a name. -/
theorem exists_nameOf_of_parts {node : Node} {fuel : Nat} {ps : List Part}
    (h : d.parts fuel node = .ok ps) : ∃ name, nameOf (d.target node) = some name := by
  unfold parts at h
  cases htag : d.tagOf node <;> cases ht : d.target node <;> rw [htag, ht] at h <;>
    first | exact ⟨_, rfl⟩ | cases h

theorem leaf_settles {node : Node} (h : d.Has node) :
    ∃ r, SettlesBy (d.nodes.length + 1) (fun n => d.leaf n node) r := by
  obtain ⟨r, hr⟩ := textOf_settles h
  refine ⟨if d.tagOf node == .unknown || d.tagOf node == .merge || d.tagOf node == .value then
    .error .malformedYaml else do scalarOf (d.tagOf node) (← r), fun n hn => ?_⟩
  have htext : d.textOf n node = r := hr n hn
  show d.leaf n node = _
  unfold leaf
  rw [htext]

/-! ### The run -/

theorem build_succ_of_fresh {fuel level : Nat} {opened : List (Option String)} {node : Node}
    (h : d.Fresh opened node) : d.build (fuel + 1) opened level node =
      d.buildStep fuel level (d.build fuel (nameOf (d.target node) :: opened) (level + 1)) node := by
  rw [build]
  have hnone : ((nameOf (d.target node)).bind fun a => opened.findIdx? (· == some a)) = none := by
    cases hname : nameOf (d.target node) with
    | none => rfl
    | some a =>
      have hnot : some a ∉ opened := h a hname
      rw [Option.bind_some, List.findIdx?_eq_none_iff]
      intro x hx
      exact beq_false_of_ne fun heq => hnot (heq ▸ hx)
  simp only [hnone]

theorem build_succ_of_not_fresh {fuel level : Nat} {opened : List (Option String)} {node : Node}
    (h : ¬ d.Fresh opened node) : ∃ v, d.build (fuel + 1) opened level node = .ok v := by
  unfold Fresh at h
  push Not at h
  obtain ⟨a, hname, hmem⟩ := h
  rw [build, hname, Option.bind_some]
  cases hidx : opened.findIdx? (· == some a) with
  | none =>
    rw [List.findIdx?_eq_none_iff] at hidx
    exact absurd (hidx _ hmem) (by simp)
  | some up => exact ⟨_, rfl⟩

/-- **What a build reports** is the first fault of the node, where enough steps are left for each
collection that is not opened yet and for the merging at the end. -/
theorem finds_build {fuel : Nat} : ∀ {opened : List (Option String)} {level : Nat} {node : Node},
    d.Has node → unmet (d.names.map some) opened + (3 * d.nodes.length + 4) ≤ fuel →
      Finds level (d.FaultAt opened node) (d.build fuel opened level node).fault? := by
  induction fuel with
  | zero =>
    intro opened level node _ hfuel
    omega
  | succ fuel ih =>
    intro opened level node h hfuel
    by_cases hfresh : d.Fresh opened node
    · rw [build_succ_of_fresh hfresh]
      cases htag : (d.tagOf node).isCollection with
      | false =>
        obtain ⟨r, hr⟩ := leaf_settles h
        have hleaf : d.leaf fuel node = r := hr fuel (by omega)
        have hfault : ∀ w f, d.FaultAt opened node w f ↔ w = [] ∧ r = .error f := by
          intro w f
          rw [faultAt_leaf_iff hfresh htag]
          exact and_congr_right fun _ => ⟨fun hs => Settles.unique ⟨_, hr⟩ hs, fun hs => ⟨_, hs ▸ hr⟩⟩
        rw [fault?_buildStep_leaf htag, hleaf]
        refine Finds.congr ?_ fun w f => (hfault w f).symm
        cases r with
        | ok v => exact fun w f ⟨_, hf⟩ => by cases hf
        | error f => exact finds_of_forall_eq (v := []) ⟨rfl, rfl⟩ fun w g hw => hw.1
      | true =>
        obtain ⟨r, hr, -⟩ := parts_sound h
        have hparts : d.parts fuel node = r := hr fuel (by omega)
        rw [fault?_buildStep_collection htag, hparts]
        cases r with
        | error g =>
          refine Finds.congr ?_ fun w f => (faultAt_content_iff hfresh htag ⟨_, hr⟩).symm
          exact finds_of_forall_eq (v := [0]) ⟨rfl, rfl⟩ fun w g hw => hw.1
        | ok ps =>
          refine Finds.congr ?_ fun w f => (faultAt_parts_iff hfresh htag ⟨_, hr⟩).symm
          obtain ⟨name, hname⟩ := exists_nameOf_of_parts hparts
          have hmem : some name ∈ d.names.map some := List.mem_map_of_mem (h.name_mem hname)
          have hless : unmet (d.names.map some) (some name :: opened) <
              unmet (d.names.map some) opened := unmet_cons_lt hmem (hfresh name hname)
          have hpart : ∀ i r, (ps.map (buildPart level
              (d.build fuel (nameOf (d.target node) :: opened) (level + 1))))[i]? = some r →
              Finds (level + 1) (d.FaultOfPart (nameOf (d.target node) :: opened) ps (0 + i))
                r.fault? := by
            intro i r hri
            rw [List.getElem?_map] at hri
            obtain ⟨p, hp, rfl⟩ := Option.map_eq_some_iff.1 hri
            unfold FaultOfPart
            rw [Nat.zero_add, hp]
            cases p with
            | node n =>
              have hn : d.Has n := has_of_mem_parts h hparts (List.mem_of_getElem? hp)
              rw [hname]
              exact ih hn (by omega)
            | misfit => exact finds_of_forall_eq (v := []) ⟨rfl, rfl⟩ fun w g hw => hw.1
          have hall := Build.finds_all hpart
          rwa [List.length_map] at hall
    · obtain ⟨v, hv⟩ := build_succ_of_not_fresh hfresh
      rw [hv]
      exact fun w f hf => hfresh hf.fresh

/-- The fault of the first place where the document has one. -/
def FirstFault (d : Document) (f : Fault) : Prop :=
  ∃ w, d.FaultAt [] d.root w f ∧ ∀ w' f', d.FaultAt [] d.root w' f' → ¬ Before w' w

theorem FirstFault.unique {f g : Fault} (hf : d.FirstFault f) (hg : d.FirstFault g) : f = g := by
  obtain ⟨v, hv, hvmin⟩ := hf
  obtain ⟨w, hw, hwmin⟩ := hg
  have hvw : v = w := eq_of_not_before (hwmin v f hv) (hvmin w g hw)
  subst hvw
  exact hv.unique hw

theorem finds_data (d : Document) :
    Finds 0 (d.FaultAt [] d.root) (d.build d.bound [] 0 d.root).fault? := by
  refine finds_build d.has_root ?_
  have hnames : unmet (d.names.map some) [] ≤ d.nodes.length := by
    refine (unmet_le_length _ _).trans ?_
    rw [List.length_map]
    exact d.length_names_le
  unfold bound
  omega

/-- **A document whose data cannot be built** has the fault of its first place. -/
theorem data_eq_error_iff {f : Fault} : d.data = .error f ↔ d.FirstFault f := by
  have hfinds := d.finds_data
  unfold data
  cases hbuild : d.build d.bound [] 0 d.root with
  | ok v =>
    rw [hbuild] at hfinds
    refine iff_of_false (fun h => by cases h) ?_
    rintro ⟨w, hw, -⟩
    exact hfinds w f hw
  | error e =>
    rw [hbuild] at hfinds
    obtain ⟨l, g⟩ := e
    obtain ⟨w, hw, -, hmin⟩ := hfinds
    have hfirst : d.FirstFault g := ⟨w, hw, hmin⟩
    constructor
    · intro h
      cases h
      exact hfirst
    · intro h
      rw [h.unique hfirst]

/-! ### Faults that are not those of malformed data -/

/-- A node whose text is not one of the type of its tag, or has no end. -/
inductive Inconvertible (d : Document) (n : Node) : Fault → Prop
  | text {s : String} {f : Fault} : Settles (fun k => d.textOf k n) (.ok s) →
      scalarOf (d.tagOf n) s = .error f → f ∈ (d.tagOf n).faults → Inconvertible d n f
  | endless : (∀ k, d.textOf k n = .error .tooDeep) → Inconvertible d n .tooDeep

theorem eq_of_textOf_eq_error {k : Nat} {n : Node} {f : Fault} (h : d.textOf k n = .error f) :
    f = .tooDeep ∨ f = .malformedYaml := by
  induction k generalizing n with
  | zero =>
    cases h
    exact .inl rfl
  | succ k ih =>
    rw [textOf] at h
    split at h
    · cases h
    · split at h
      · exact ih h
      · cases h
        exact .inr rfl
    · cases h
      exact .inr rfl

/-- A text that is not found in any number of steps has no end. -/
theorem endless_of_settles {n : Node} (h : Settles (fun k => d.textOf k n) (.error .tooDeep))
    (k : Nat) : d.textOf k n = .error .tooDeep := by
  obtain ⟨least, hleast⟩ := h
  exact textOf_of_add k (hleast (k + least) (Nat.le_add_left least k))

/-- **A fault that is not that of malformed data** is due to the text of a node. -/
theorem exists_inconvertible {opened : List (Option String)} {node : Node} {w : List Nat} {f : Fault}
    (h : d.FaultAt opened node w f) (hnode : d.Has node) :
    f = .malformedYaml ∨ ∃ n, d.Has n ∧ d.Inconvertible n f := by
  induction h with
  | @leaf opened node f _ _ hleaf =>
    obtain ⟨r, hr⟩ := textOf_settles hnode
    obtain ⟨least, hleast⟩ := hleaf
    have htext : d.textOf (least + (d.nodes.length + 1)) node = r := hr _ (Nat.le_add_left _ least)
    have hf : d.leaf (least + (d.nodes.length + 1)) node = .error f :=
      hleast _ (Nat.le_add_right least _)
    unfold leaf at hf
    dsimp only at hf
    split at hf
    · cases hf
      exact .inl rfl
    · rw [htext] at hf
      cases r with
      | ok s =>
        rcases mem_faults_of_scalarOf hf with hf' | hf'
        · exact .inl hf'
        · exact .inr ⟨node, hnode, .text ⟨_, hr⟩ hf hf'⟩
      | error e =>
        cases hf
        rcases eq_of_textOf_eq_error htext with rfl | rfl
        · exact .inr ⟨node, hnode, .endless (endless_of_settles ⟨_, hr⟩)⟩
        · exact .inl rfl
  | @content opened node f _ _ hparts =>
    obtain ⟨r, hr, he⟩ := parts_sound hnode
    have hrf : r = .error f := Settles.unique ⟨_, hr⟩ hparts
    exact .inl (he f hrf)
  | misfit => exact .inl rfl
  | part _ _ hparts hi _ ih =>
    obtain ⟨least, hleast⟩ := hparts
    exact ih (has_of_mem_parts hnode (hleast least le_rfl) (List.mem_of_getElem? hi))

end Document

end SlidePress.Yaml
