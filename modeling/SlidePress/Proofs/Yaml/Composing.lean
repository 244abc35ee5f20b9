import SlidePress.Yaml.Node

/-! # Faults on the way from tokens to nodes

Composing the nodes of a document reads its tokens one after another. It either takes the text for
malformed, or passes on the fault of a token that stands for a failure (`fault_of_ofTokens?`); it has
no fault of its own. What is carried through all of it is that the tokens to come are among those of
the text (`Reads`). -/

namespace SlidePress.Yaml

/-- A way of reading that leaves tokens of the text, or fails as malformed or with the fault of one of
them. -/
def Reads {α : Type} (ts : List Token) (m : Compose α) : Prop :=
  ∀ s : Composer, s.rest ⊆ ts →
    match m.run s with
    | .ok (_, s') => s'.rest ⊆ ts
    | .error f => f = .malformedYaml ∨ ∃ t ∈ ts, t.kind = .failure f

namespace Reads

variable {α β : Type} {ts : List Token}

theorem pure (a : α) : Reads ts (Pure.pure a) := fun _ hs => hs

theorem fail : Reads ts (Compose.fail : Compose α) := fun _ _ => .inl rfl

theorem bind {m : Compose α} {g : α → Compose β} (hm : Reads ts m) (hg : ∀ a, Reads ts (g a)) :
    Reads ts (m >>= g) := by
  intro s hs
  have hfirst := hm s hs
  rw [StateT.run_bind]
  cases hrun : m.run s with
  | error f =>
    rw [hrun] at hfirst
    exact hfirst
  | ok r =>
    rw [hrun] at hfirst
    exact hg r.1 r.2 hfirst

/-- A choice between two ways of reading. -/
theorem ite {c : Prop} [Decidable c] {m m' : Compose α} (hm : Reads ts m) (hm' : Reads ts m') :
    Reads ts (if c then m else m') := by
  split
  · exact hm
  · exact hm'

theorem map {m : Compose α} (hm : Reads ts m) (g : α → β) : Reads ts (g <$> m) := by
  rw [map_eq_pure_bind]
  exact hm.bind fun a => pure (g a)

/-- The state is looked at. -/
theorem look {g : Composer → Compose β} (hg : ∀ s, s.rest ⊆ ts → Reads ts (g s)) :
    Reads ts (get >>= g) := fun s hs => hg s hs s hs

theorem put {s' : Composer} (h : s'.rest ⊆ ts) : Reads ts (set s' : Compose PUnit) := fun _ _ => h

/-- Something else than the tokens is changed. -/
theorem change {g : Composer → Composer} (h : ∀ s, (g s).rest = s.rest) :
    Reads ts (modify g : Compose PUnit) := fun s hs => by
  show (g s).rest ⊆ ts
  rw [h]
  exact hs

end Reads

namespace Compose

variable {ts : List Token}

theorem reads_peek : Reads ts peek := by
  refine .look fun s hs => ?_
  cases hrest : s.rest with
  | nil => exact .fail
  | cons t rest =>
    have ht : t ∈ ts := hs (hrest ▸ List.mem_cons_self)
    dsimp only
    split
    · rename_i f hkind
      exact fun _ _ => .inr ⟨t, ht, hkind⟩
    · exact .pure t

theorem reads_drop : Reads ts drop := fun _ hs => fun _ ht => hs (List.mem_of_mem_tail ht)

theorem reads_nextIs (kinds : List Token.Kind) : Reads ts (nextIs kinds) :=
  reads_peek.bind fun _ => .pure _

theorem reads_declare (anchor : Option String) : Reads ts (declare anchor) := by
  cases anchor with
  | none => exact .pure ()
  | some a =>
    refine .look fun s hs => ?_
    exact .ite .fail (.put hs)

theorem reads_name (anchor : Option String) (n : Node) : Reads ts (name anchor n) := by
  cases anchor with
  | none => exact .pure n
  | some a => exact (Reads.change fun _ => rfl).bind fun _ => .pure n

theorem reads_nameHere (anchor : Option String) : Reads ts (nameHere anchor) :=
  .look fun _ _ => .pure _

theorem reads_fullTag (handle : Option String) (suffix : String) :
    Reads ts (fullTag handle suffix) := by
  cases handle with
  | none => exact .pure suffix
  | some h =>
    refine .look fun s _ => ?_
    cases s.handles.lookup h with
    | none => exact .fail
    | some beginning => exact .pure _

/-- A tag that may be left out, with more to read behind it. -/
theorem reads_fullTag_bind {α : Type} {g : Option String → Compose α} (hg : ∀ tag, Reads ts (g tag))
    (tag : Option (Option String × String)) : Reads ts (match tag with
      | some (h, s) => (some <$> fullTag h s) >>= g
      | none => Pure.pure none >>= g) := by
  rcases tag with _ | ⟨h, s⟩
  · exact hg none
  · exact ((reads_fullTag h s).map some).bind hg

theorem reads_properties : Reads ts properties := by
  refine reads_peek.bind fun t => ?_
  split
  · refine reads_drop.bind fun _ => reads_peek.bind fun u => ?_
    split
    · exact reads_drop.bind fun _ => .pure _
    · exact .pure _
  · refine reads_drop.bind fun _ => reads_peek.bind fun u => ?_
    split
    · exact reads_drop.bind fun _ => .pure _
    · exact .pure _
  · exact .pure _

/-- Reading what may stand for itself or be left out. -/
theorem reads_orEmpty {m : Compose Node} (hm : Reads ts m) (kinds : List Token.Kind) (n : Node) :
    Reads ts (do if ← nextIs kinds then Pure.pure n else m) :=
  (reads_nextIs kinds).bind fun _ => .ite (.pure n) hm

/-- The same, with more to read behind it. -/
theorem reads_orEmpty_bind {α : Type} {m : Compose Node} {g : Node → Compose α} (hm : Reads ts m)
    (hg : ∀ k, Reads ts (g k)) (kinds : List Token.Kind) (n : Node) :
    Reads ts (do if ← nextIs kinds then Pure.pure n >>= g else m >>= g) :=
  (reads_nextIs kinds).bind fun _ => .ite (hg n) (hm.bind hg)

/-- The comma in front of all entries of a flow collection but the first. -/
theorem reads_entry_bind {α : Type} {m : Compose α} (hm : Reads ts m) (first : Bool) :
    Reads ts (if (!first) = true then do
      if ← nextIs [.flowEntry] then
        drop
        m
      else
        fail
        m
      else m) :=
  .ite ((reads_nextIs _).bind fun _ => .ite (reads_drop.bind fun _ => hm) .fail) hm

/-- A collection: its anchor, its content, and the node that is made of it. -/
theorem reads_collection {α : Type} {m : Compose α} (hm : Reads ts m) (anchor : Option String)
    (make : String → α → Node) : Reads ts (do
      declare anchor
      let here ← nameHere anchor
      let content ← m
      name anchor (make here content)) :=
  (reads_declare anchor).bind fun _ => (reads_nameHere anchor).bind fun _ => hm.bind fun _ =>
    reads_name anchor _

theorem reads_unwritten (anchor tag : Option String) (line : Nat) :
    Reads ts (unwritten anchor tag line) := by
  unfold unwritten
  exact .ite .fail ((reads_declare anchor).bind fun _ => reads_name anchor _)

/-- A node is read if the contents of collections are. -/
theorem reads_node {n : Nat} (hblockItems : Reads ts (blockItems n []))
    (hflushItems : Reads ts (flushItems n [])) (hblockPairs : Reads ts (blockPairs n []))
    (hflowItems : Reads ts (flowItems n true [])) (hflowPairs : Reads ts (flowPairs n true []))
    (block flush : Bool) : Reads ts (node (n + 1) block flush) := by
  rw [node]
  refine reads_peek.bind fun t => ?_
  split
  · exact reads_drop.bind fun _ => .look fun s _ => .ite (.pure _) .fail
  · refine reads_properties.bind fun p => ?_
    obtain ⟨anchor, tag, first⟩ := p
    refine reads_fullTag_bind (fun tag => ?_) tag
    refine reads_peek.bind fun u => ?_
    dsimp only
    split
    · refine reads_drop.bind fun _ => (reads_declare anchor).bind fun _ => ?_
      exact reads_name anchor _
    · exact reads_drop.bind fun _ => reads_collection hflowItems anchor _
    · exact reads_drop.bind fun _ => reads_collection hflowPairs anchor _
    · exact .ite (reads_collection hflushItems anchor _) (reads_unwritten anchor tag _)
    · refine .ite ?_ (reads_unwritten anchor tag _)
      exact reads_drop.bind fun _ => reads_collection hblockItems anchor _
    · refine .ite ?_ (reads_unwritten anchor tag _)
      exact reads_drop.bind fun _ => reads_collection hblockPairs anchor _
    · exact reads_unwritten anchor tag _

/-- **Reading a node** and its parts, of any number of steps. -/
theorem reads_nodes (n : Nat) :
    (∀ block flush, Reads ts (node n block flush)) ∧
    (∀ got, Reads ts (blockItems n got)) ∧
    (∀ got, Reads ts (flushItems n got)) ∧
    (∀ got, Reads ts (blockPairs n got)) ∧
    Reads ts (blockValue n) ∧
    (∀ first got, Reads ts (flowItems n first got)) ∧
    (∀ closing, Reads ts (flowValue n closing)) ∧
    ∀ first got, Reads ts (flowPairs n first got) := by
  induction n with
  | zero =>
    refine ⟨fun _ _ => .fail, fun _ => .fail, fun _ => .fail, fun _ => .fail, .fail,
      fun _ _ => .fail, fun _ => .fail, fun _ _ => .fail⟩
  | succ n ih =>
    obtain ⟨hnode, hblockItems, hflushItems, hblockPairs, hblockValue, hflowItems, hflowValue,
      hflowPairs⟩ := ih
    refine ⟨fun block flush => ?_, fun got => ?_, fun got => ?_, fun got => ?_, ?_,
      fun first got => ?_, fun closing => ?_, fun first got => ?_⟩
    · exact reads_node (hblockItems []) (hflushItems []) (hblockPairs []) (hflowItems true [])
        (hflowPairs true []) block flush
    · rw [blockItems]
      refine reads_peek.bind fun t => ?_
      split
      · refine reads_drop.bind fun _ => (reads_nextIs _).bind fun _ => ?_
        exact .ite (hblockItems _) ((hnode true false).bind fun item => hblockItems _)
      · exact reads_drop.bind fun _ => .pure _
      · exact .fail
    · rw [flushItems]
      refine reads_peek.bind fun t => ?_
      split
      · refine reads_drop.bind fun _ => (reads_nextIs _).bind fun _ => ?_
        exact .ite (hflushItems _) ((hnode true false).bind fun item => hflushItems _)
      · exact .pure _
    · rw [blockPairs]
      refine reads_peek.bind fun t => ?_
      split
      · exact reads_drop.bind fun _ => .pure _
      · refine reads_drop.bind fun _ => reads_orEmpty_bind (hnode true true) (fun k => ?_) _ _
        exact hblockValue.bind fun v => hblockPairs _
      · exact .fail
    · rw [blockValue]
      refine reads_peek.bind fun t => ?_
      split
      · exact reads_drop.bind fun _ => reads_orEmpty (hnode true true) _ _
      · exact .pure _
    · rw [flowItems]
      refine (reads_nextIs _).bind fun _ => .ite (reads_drop.bind fun _ => .pure _) ?_
      refine reads_entry_bind (reads_peek.bind fun t => ?_) first
      split
      · exact reads_drop.bind fun _ => .pure _
      · refine reads_drop.bind fun _ => (reads_nameHere none).bind fun here => ?_
        refine reads_orEmpty_bind (hnode false false) (fun k => ?_) _ _
        exact (hflowValue _).bind fun v => hflowItems _ _
      · exact (hnode false false).bind fun item => hflowItems _ _
    · rw [flowValue]
      refine reads_peek.bind fun t => ?_
      split
      · exact reads_drop.bind fun _ => reads_orEmpty (hnode false false) _ _
      · exact .pure _
    · rw [flowPairs]
      refine (reads_nextIs _).bind fun _ => .ite (reads_drop.bind fun _ => .pure _) ?_
      refine reads_entry_bind (reads_peek.bind fun t => ?_) first
      split
      · exact reads_drop.bind fun _ => .pure _
      · refine reads_drop.bind fun _ => reads_orEmpty_bind (hnode false false) (fun k => ?_) _ _
        exact (hflowValue _).bind fun v => hflowPairs _ _
      · exact (hnode false false).bind fun k => reads_peek.bind fun u => hflowPairs _ _

theorem reads_directives (n : Nat) : ∀ (versioned : Bool) (got : List (String × String)),
    Reads ts (directives n versioned got) := by
  induction n with
  | zero => exact fun _ _ => .fail
  | succ n ih =>
    intro versioned got
    rw [directives]
    refine reads_peek.bind fun t => ?_
    split
    · exact reads_drop.bind fun _ => .ite .fail (ih _ _)
    · exact reads_drop.bind fun _ => .ite .fail (ih _ _)
    · exact reads_drop.bind fun _ => ih _ _
    · exact .pure got

theorem reads_passEnds (n : Nat) : Reads ts (passEnds n) := by
  induction n with
  | zero => exact .fail
  | succ n ih =>
    rw [passEnds]
    exact (reads_nextIs _).bind fun _ => .ite (reads_drop.bind fun _ => ih) (.pure ())

theorem reads_document (n : Nat) : Reads ts (document n) := by
  have hnode : Reads ts (some <$> node n true false) := ((reads_nodes n).1 true false).map some
  have hend : ∀ root : Option Node, Reads ts (do
      if root.isSome then
        passEnds n
        let u ← peek
        if u.kind = .streamEnd then return root else fail
      else return none) := by
    intro root
    refine .ite ?_ (.pure none)
    exact (reads_passEnds n).bind fun _ => reads_peek.bind fun u => .ite (.pure root) .fail
  unfold document
  refine reads_peek.bind fun t => ?_
  refine .ite ((Reads.pure none).bind hend) (.ite ?_ (hnode.bind hend))
  refine (reads_directives n false []).bind fun declared => ?_
  refine Reads.bind (.change fun s => ?_) fun _ => reads_peek.bind fun t => ?_
  · rfl
  refine .ite (reads_drop.bind fun _ => reads_peek.bind fun u => ?_) .fail
  exact .ite ((Reads.pure _).bind hend) (hnode.bind hend)

end Compose

/-- **A text that is not composed** is malformed, or one of its tokens stands for the failure. -/
theorem fault_of_ofTokens? {ts : List Token} {f : Fault} (h : Document.ofTokens? ts = .error f) :
    f = .malformedYaml ∨ ∃ t ∈ ts, t.kind = .failure f := by
  have hdocument : Reads ts (Compose.document (2 * ts.length + 2)) :=
    Compose.reads_document _
  have hreads := hdocument ⟨ts, Compose.usualHandles, [], []⟩ (List.Subset.refl ts)
  unfold Document.ofTokens? at h
  cases hrun : (Compose.document (2 * ts.length + 2)).run ⟨ts, Compose.usualHandles, [], []⟩ with
  | ok r =>
    rw [hrun] at h
    cases h
  | error g =>
    rw [hrun] at h hreads
    cases h
    exact hreads

end SlidePress.Yaml
