import SlidePress.Proofs.Deck.Source
import SlidePress.Proofs.Value.Key
import SlidePress.Proofs.Yaml.Data

/-! # The lines of slides

The slides of a deck are read from the data that is built from its document, their lines from the
nodes of the document. Both look for the pair called `slides` among the pairs of the top-level
mapping, but not in the same way: the lines are those of the first pair whose key is a scalar with
that text, the slides come from the last pair whose key is built as that text (`exists_reads`). The
two are the same pair where the name occurs once (`firstNamed_eq_lastBuilt`). -/

namespace SlidePress

open Attempt (bind_eq_ok map_eq_ok)

namespace Yaml.Document

variable {d : Document}

/-! ### The two pairs -/

/-- The value of a key of the top-level mapping. -/
def keyOf (d : Document) (k : Node) : Build Value :=
  d.buildKey 0 (d.build (d.bound - 1) [nameOf (d.target d.root)] 1) k

/-- Whether a key of the top-level mapping is built as a given text. -/
def isText (d : Document) (text : String) (k : Node) : Bool :=
  match d.keyOf k with
  | .ok v => v.text? == some text
  | .error _ => false

/-- The first pair of the top-level mapping whose key is a scalar with a given text. -/
def firstNamed (d : Document) (name : String) : Option (Node × Node) :=
  d.rootPairs.find? fun p => d.isScalar name p.1

/-- The last pair of the top-level mapping whose key is built as a given text. -/
def lastBuilt (d : Document) (name : String) : Option (Node × Node) :=
  d.rootPairs.reverse.find? fun p => d.isText name p.1

/-- The items of the sequence under a key. -/
def itemsOf (d : Document) : Option (Node × Node) → List Node
  | some (_, v) =>
    match d.target v with
    | .sequence _ _ _ items => items
    | _ => []
  | none => []

theorem itemsOf_sequence {p : Node × Node} {a : String} {line : Nat} {tag : Tag}
    {items : List Node} (h : d.target p.2 = .sequence a line tag items) :
    d.itemsOf (some p) = items := by
  unfold itemsOf
  dsimp only
  rw [h]

theorem itemLines_eq (d : Document) (name : String) :
    d.itemLines name = (d.itemsOf (d.firstNamed name)).map fun i => d.lineOf i + 1 := by
  unfold itemLines itemsOf firstNamed
  rcases d.rootPairs.find? _ with _ | ⟨k, v⟩
  · rfl
  · dsimp only
    cases d.target v <;> rfl

/-- The name is used once: by one key at most, which is both a scalar with that text and built as
it. -/
structure NamesOnce (d : Document) (name : String) : Prop where
  alike : ∀ p ∈ d.rootPairs, d.isScalar name p.1 = d.isText name p.1
  once : d.rootPairs.countP (fun p => d.isScalar name p.1) ≤ 1

theorem firstNamed_eq_lastBuilt {name : String} (h : d.NamesOnce name) :
    d.firstNamed name = d.lastBuilt name := by
  have hlast : d.lastBuilt name = d.rootPairs.reverse.find? fun p => d.isScalar name p.1 := by
    unfold lastBuilt
    rw [← List.head?_filter, ← List.head?_filter]
    congr 1
    exact List.filter_congr fun p hp => (h.alike p (List.mem_reverse.1 hp)).symm
  have hone : ∀ ps : List (Node × Node), ps.length ≤ 1 → ps.head? = ps.reverse.head?
    | [], _ | [_], _ => rfl
    | _ :: _ :: _, h => by simp at h
  rw [hlast, firstNamed, ← List.head?_filter, ← List.head?_filter, List.filter_reverse]
  exact hone _ (List.countP_eq_length_filter (p := _) ▸ h.once)

/-! ### The data of the top-level mapping -/

/-- The pairs of the top-level mapping are built one by one, and later ones win. -/
theorem exists_ofPairs {es : Entries} (h : d.data = .ok (.map es)) :
    ∃ kvs, List.Forall₂ (fun p e => d.keyOf p.1 = .ok e.1 ∧
        d.build (d.bound - 1) [nameOf (d.target d.root)] 1 p.2 = .ok e.2) d.rootPairs kvs ∧
      es = Entries.ofPairs kvs := by
  obtain ⟨m, hm⟩ := d.exists_bound
  have hbuild : d.build (m + 1 + 1) [] 0 d.root = .ok (.map es) := by
    unfold data at h
    rw [← hm]
    split at h
    · rename_i hv
      cases h
      exact hv
    · cases h
  rcases build_succ_eq_ok hbuild with ⟨_, _, h⟩ | hbuilt
  · cases h
  · cases hbuilt with
    | @map anchor line tag pairs ps _ _ htarget hflatten hentries =>
      have hpairs : d.rootPairs = ps := by
        unfold rootPairs
        rw [htarget]
        dsimp only
        rw [hm, flatten_succ hflatten]
      obtain ⟨kvs, hkvs, rfl⟩ := buildEntries_eq_ok hentries
      refine ⟨kvs, ?_, rfl⟩
      rw [hpairs]
      unfold keyOf
      rw [hm]
      exact hkvs
    | scalar _ _ hv => exact absurd (scalarOf_atomic hv) (fun h => h)

/-- **The last pair counts**: what is found under a name in the data of the document was built from
the value of the last pair whose key is built as that name. -/
theorem get?_of_data {es : Entries} (h : d.data = .ok (.map es)) (name : String) :
    (d.lastBuilt name = none ∧ Entries.get? es name = none) ∨
      ∃ p x, d.lastBuilt name = some p ∧ Entries.get? es name = some x ∧
        d.build (d.bound - 1) [nameOf (d.target d.root)] 1 p.2 = .ok x := by
  obtain ⟨kvs, hkvs, rfl⟩ := exists_ofPairs h
  rw [Entries.get?_ofPairs]
  unfold lastBuilt
  rcases forall₂_find? (p := fun p => d.isText name p.1) (q := fun e => e.1.text? == some name)
    (fun p e hpe => by rw [isText, hpe.1]) (List.rel_reverse hkvs) with ⟨h1, h2⟩ | ⟨p, e, h1, h2, hpe⟩
  · exact .inl ⟨h1, by rw [h2]; rfl⟩
  · exact .inr ⟨p, e.2, h1, by rw [h2]; rfl, hpe.2⟩

end Yaml.Document

/-! ### Reading slides -/

namespace Fields

theorem items_eq_ok {α : Type} {read : Reader α} :
    ∀ {xs : List Value} {as : List α} (step : Nat → String),
      all (xs.mapIdx fun i x => under (step i) (read x)) = .ok as →
        List.Forall₂ (fun x a => read x = .ok a) xs as
  | [], as, _, h => by
    cases h
    exact .nil
  | x :: xs, as, step, h => by
    rw [List.mapIdx_cons, all, andThen_eq_ok_iff] at h
    obtain ⟨g, bs, hg, hbs, rfl⟩ := h
    obtain ⟨a, ha, rfl⟩ := map_eq_ok.1 hg
    refine .cons ?_ (items_eq_ok (fun i => step (i + 1)) hbs)
    cases hx : read x with
    | error es =>
      rw [hx] at ha
      cases ha
    | ok b =>
      rw [hx] at ha
      cases ha
      rfl

/-- Nothing else is a list. -/
theorem listOf_ne_ok {α : Type} {read : Reader α} {as : List α} {v : Value}
    (h : listOf read v = .ok as) :
    (∃ xs, v = .list xs) ∨ (∃ xs, v = .tuple xs) ∨ ∃ xs, v = .set xs := by
  cases v with
  | list xs => exact .inl ⟨xs, rfl⟩
  | tuple xs => exact .inr (.inl ⟨xs, rfl⟩)
  | set xs => exact .inr (.inr ⟨xs, rfl⟩)
  | _ => cases h

end Fields

namespace Value

theorem outOf_atomic {v : Value} (h : v.Atomic) (whole : Value) (depth : Nat) :
    outOf whole depth v = v := by
  cases v with
  | list | tuple | map | again => exact h.elim
  | _ => rfl

end Value

theorem Slide.exists_map_of_ofValue {v : Value} {s : Slide} (h : Slide.ofValue v = .ok s) :
    ∃ es, v = .map es := by
  obtain ⟨es, hes, -⟩ := bind_eq_ok.1 h
  cases v with
  | map es => exact ⟨es, rfl⟩
  | _ => cases hes

/-- A deck without slides in its data has none; otherwise they are read from the list there. -/
theorem Deck.slides_of_ofValue {es : Entries} {deck : Deck}
    (h : Deck.ofValue (.map es) = .ok deck) :
    (Entries.get? es "slides" = none ∧ deck.slides = []) ∨
      ∃ x, Entries.get? es "slides" = some x ∧
        Fields.listOf Slide.ofValue (Value.outOf (.map es) 0 x) = .ok deck.slides := by
  obtain ⟨es', hes, h⟩ := bind_eq_ok.1 h
  cases hes
  obtain ⟨g, slides, hg, hslides, rfl⟩ := (Fields.andThen_eq_ok_iff _ _ _).1 h
  obtain ⟨info, -, rfl⟩ := map_eq_ok.1 hg
  show _ ∧ slides = [] ∨ ∃ x, _ ∧ _ = Except.ok slides
  unfold Fields.withDefault Entries.members at hslides
  rw [Entries.get?_outOfEntries] at hslides
  cases hget : Entries.get? es "slides" with
  | none =>
    rw [hget] at hslides
    cases hslides
    exact .inl ⟨rfl, rfl⟩
  | some x =>
    rw [hget] at hslides
    refine .inr ⟨x, rfl, ?_⟩
    dsimp only [Option.map] at hslides
    cases hlist : Fields.listOf Slide.ofValue (Value.outOf (.map es) 0 x) with
    | error issues =>
      rw [hlist] at hslides
      cases hslides
    | ok slides' =>
      rw [hlist] at hslides
      cases hslides
      rfl

namespace Yaml.Document

variable {d : Document}

/-- The value of an item of the sequence in a pair of the top-level mapping. -/
def itemValue (d : Document) (pair : Option (Node × Node)) (item : Node) : Build Value :=
  d.build (d.bound - 2) [pair.bind fun p => nameOf (d.target p.2), nameOf (d.target d.root)] 2 item

/-- A slide is read from an item of the sequence in a pair of the top-level mapping, where the data
of that mapping is `es` and that of the sequence, for itself, is `xs`. -/
def Reads (d : Document) (es : Entries) (xs : List Value) (pair : Option (Node × Node))
    (item : Node) (slide : Slide) : Prop :=
  ∃ x, d.itemValue pair item = .ok x ∧
    Slide.ofValue (Value.outOf (.list xs) 0 (Value.outOf (.map es) 1 x)) = .ok slide

theorem forall₂_of_built {f : Node → Build Value} {g : Value → Value} {R : Value → Slide → Prop} :
    ∀ {items : List Node} {ys : List Value} {slides : List Slide}, items.map f = ys.map .ok →
      List.Forall₂ R (ys.map g) slides →
        List.Forall₂ (fun i s => ∃ y, f i = .ok y ∧ R (g y) s) items slides
  | [], [], _, _, .nil => .nil
  | [], _ :: _, _, h, _ => by cases h
  | _ :: _, [], _, h, _ => by cases h
  | i :: items, y :: ys, _ :: _, h, .cons hy hys => by
    rw [List.map_cons, List.map_cons, List.cons.injEq] at h
    exact .cons ⟨y, h.1, hy⟩ (forall₂_of_built h.2 hys)

/-- The elements of a set are keys, and no slide is read from a key. -/
theorem slides_of_set {fuel level level' : Nat} {opened : List (Option String)}
    {pairs : List (Node × Node)} {es : Entries} {whole : Value} {slides : List Slide}
    (hes : d.buildEntries level' (d.build fuel opened level) pairs = .ok es)
    (h : Fields.listOf Slide.ofValue (Value.outOf whole 0 (.set (es.map Prod.fst))) = .ok slides) :
    slides = [] := by
  obtain ⟨kvs, hkvs, rfl⟩ := buildEntries_eq_ok hes
  have hslides := Fields.items_eq_ok toString h
  rcases hkeys : Entries.ofPairs kvs with _ | ⟨e, es⟩
  · rw [hkeys] at hslides
    cases hslides
    rfl
  · have hmem : e ∈ Entries.ofPairs kvs := hkeys ▸ List.mem_cons_self
    rw [hkeys] at hslides
    cases hslides with
    | cons hslide _ =>
      obtain ⟨fs, hfs⟩ := Slide.exists_map_of_ofValue hslide
      obtain ⟨kv, hkv, hkey⟩ := Entries.exists_key_of_mem_ofPairs hmem
      obtain ⟨i, hi, rfl⟩ := List.getElem_of_mem hkv
      have hbuilt := (hkvs.get (hkvs.length_eq ▸ hi) hi).1
      exact absurd (hkey.trans hfs) (ne_map_of_buildKey hbuilt fs)

/-- What is read one by one from the values of the items of a list. -/
theorem forall₂_members {whole : Value} {ys : List Value} {slides : List Slide}
    (h : Fields.listOf Slide.ofValue (Value.outOf whole 0 (.list ys)) = .ok slides) :
    List.Forall₂ (fun x s => Slide.ofValue x = .ok s)
      (ys.map (Value.outOf (.list (ys.map (Value.outOf whole 1))) 0 ∘ Value.outOf whole 1))
      slides := by
  have hslides := Fields.items_eq_ok toString h
  unfold Value.members at hslides
  rwa [Value.outOfList_eq_map, Value.outOfList_eq_map, List.map_map] at hslides

/-- The items of a sequence of pairs are built as pairs, and no slide is read from a pair. -/
theorem slides_of_pairs {level : Nat} {child : Node → Build Value} {items : List Node}
    {ys : List Value} {whole : Value} {slides : List Slide}
    (hys : d.buildPairs level child items = .ok ys)
    (h : Fields.listOf Slide.ofValue (Value.outOf whole 0 (.list ys)) = .ok slides) :
    items = [] ∧ slides = [] := by
  have hslides := forall₂_members h
  obtain ⟨hlength, htuples⟩ := buildPairs_eq_ok hys
  cases ys with
  | nil =>
    cases hslides
    exact ⟨List.eq_nil_of_length_eq_zero hlength.symm, rfl⟩
  | cons y ys =>
    obtain ⟨k, v, rfl⟩ := htuples y List.mem_cons_self
    cases hslides with
    | cons hslide _ => cases hslide

/-- The slides that are read from a built value are read one by one from the items of its node. -/
theorem exists_forall₂_reads {es : Entries} {p : Node × Node} {x : Value}
    (hx : d.build (d.bound - 1) [nameOf (d.target d.root)] 1 p.2 = .ok x) {slides : List Slide}
    (h : Fields.listOf Slide.ofValue (Value.outOf (.map es) 0 x) = .ok slides) :
    ∃ xs, List.Forall₂ (d.Reads es xs (some p)) (d.itemsOf (some p)) slides := by
  obtain ⟨m, hm⟩ := d.exists_bound
  rw [hm] at hx
  rcases build_succ_eq_ok hx with ⟨up, isMap, rfl⟩ | hbuilt
  · -- a sequence inside itself is not what the slides are read from
    rcases Fields.listOf_ne_ok h with ⟨xs, hxs⟩ | ⟨xs, hxs⟩ | ⟨xs, hxs⟩ <;>
      simp only [Value.outOf] at hxs <;> split_ifs at hxs
  cases hbuilt with
  | @list a line tag items ys htarget hitems =>
    refine ⟨ys.map (Value.outOf (.map es) 1), ?_⟩
    have hforall := forall₂_of_built hitems (forall₂_members h)
    unfold Reads itemValue
    rw [itemsOf_sequence htarget, hm]
    exact hforall
  | map => cases h
  | @set a line tag pairs ps es' htarget _ hentries =>
    obtain rfl := slides_of_set hentries h
    have hnone : d.itemsOf (some p) = [] := by simp [itemsOf, htarget]
    rw [hnone]
    exact ⟨[], .nil⟩
  | @pairs a line tag items ys htarget hpairs =>
    obtain ⟨rfl, rfl⟩ := slides_of_pairs hpairs h
    rw [itemsOf_sequence htarget]
    exact ⟨[], .nil⟩
  | scalar _ _ hv =>
    rw [Value.outOf_atomic (scalarOf_atomic hv)] at h
    rcases Fields.listOf_ne_ok h with ⟨xs, rfl⟩ | ⟨xs, rfl⟩ | ⟨xs, rfl⟩ <;>
      exact (scalarOf_atomic hv).elim

/-- The slides of the data of a document are read one by one from the items of the last sequence
that is built under the name. -/
theorem exists_forall₂_reads_lastBuilt {es : Entries} {deck : Deck} (hdata : d.data = .ok (.map es))
    (hvalue : Deck.ofValue (.map es) = .ok deck) :
    ∃ xs, List.Forall₂ (d.Reads es xs (d.lastBuilt "slides")) (d.itemsOf (d.lastBuilt "slides"))
      deck.slides := by
  rcases Deck.slides_of_ofValue hvalue with ⟨hget, hslides⟩ | ⟨x, hget, hslides⟩ <;>
    rcases get?_of_data hdata "slides" with ⟨hlast, hget'⟩ | ⟨p, x', hlast, hget', hx⟩ <;>
      rw [hget'] at hget <;> cases hget
  · rw [hlast, hslides]
    exact ⟨[], .nil⟩
  · rw [hlast]
    exact exists_forall₂_reads hx hslides

end Yaml.Document

namespace Deck

open Yaml (Document)

theorem ofValue_of_check {v : Value} {deck : Deck} (h : check v = .ok deck) :
    ∃ es, v = .map es ∧ Deck.ofValue (.map es) = .ok deck := by
  unfold check at h
  cases v with
  | map es =>
    refine ⟨es, rfl, ?_⟩
    split at h
    · rename_i hvalue
      cases h
      exact hvalue
    · cases h
  | _ => cases h

/-- A deck that is read with lines is that in the data of a document. -/
theorem exists_data_of_ofTextWithLines {s : String} {deck : Deck} {lines : List Nat}
    (h : ofTextWithLines s = .ok (deck, lines)) :
    ∃ d es, Document.ofTokens? (Yaml.tokens s) = .ok (some d) ∧ d.data = .ok (.map es) ∧
      Deck.ofValue (.map es) = .ok deck ∧ lines = d.itemLines "slides" := by
  unfold ofTextWithLines at h
  split at h
  · cases h
  rcases htokens : Document.ofTokens? (Yaml.tokens s) with f | _ | d
  · rw [htokens] at h
    cases h
  · rw [htokens] at h
    cases h
  rw [htokens] at h
  dsimp only at h
  cases hdata : d.data with
  | error f =>
    rw [hdata] at h
    cases h
  | ok v =>
    rw [hdata] at h
    obtain ⟨deck', hcheck, h⟩ := bind_eq_ok.1 h
    cases h
    obtain ⟨es, rfl, hvalue⟩ := ofValue_of_check hcheck
    exact ⟨d, es, rfl, hdata, hvalue, rfl⟩

/-- **Where the slides and their lines come from.** A text that is read as a deck with lines has a
document, whose slides are read one by one from the items of the last sequence that is built under
the name, and whose lines are those of the items of the first one that is called by it. So each line
is that of the item its slide is read from where the name is used once. -/
theorem exists_reads {s : String} {deck : Deck} {lines : List Nat}
    (h : ofTextWithLines s = .ok (deck, lines)) :
    ∃ (d : Document) (es : Entries) (xs : List Value),
      Document.ofTokens? (Yaml.tokens s) = .ok (some d) ∧ d.data = .ok (.map es) ∧
      List.Forall₂ (d.Reads es xs (d.lastBuilt "slides")) (d.itemsOf (d.lastBuilt "slides"))
        deck.slides ∧
      lines = (d.itemsOf (d.firstNamed "slides")).map (fun i => d.lineOf i + 1) ∧
      (d.NamesOnce "slides" → List.Forall₂ (fun line slide => ∃ item,
        d.Reads es xs (d.lastBuilt "slides") item slide ∧ line = d.lineOf item + 1)
          lines deck.slides) := by
  obtain ⟨d, es, htokens, hdata, hvalue, rfl⟩ := exists_data_of_ofTextWithLines h
  obtain ⟨xs, hreads⟩ := Document.exists_forall₂_reads_lastBuilt hdata hvalue
  refine ⟨d, es, xs, htokens, hdata, hreads, d.itemLines_eq "slides", fun honce => ?_⟩
  rw [d.itemLines_eq "slides", Document.firstNamed_eq_lastBuilt honce, List.forall₂_map_left_iff]
  exact hreads.imp fun item slide hitem => ⟨item, hitem, rfl⟩

/-- A text that has its slides twice. -/
def slidesTwice : String :=
  "meta:\n  title: T\nslides:\n- template: raw\nslides:\n- template: raw\n"

theorem exists_reads_slidesTwice :
    ∃ deck, ofTextWithLines slidesTwice = .ok (deck, [4]) ∧
      ∃ (d : Document) (es : Entries) (xs : List Value),
        Document.ofTokens? (Yaml.tokens slidesTwice) = .ok (some d) ∧
        List.Forall₂ (d.Reads es xs (d.lastBuilt "slides")) (d.itemsOf (d.lastBuilt "slides"))
          deck.slides ∧
        (d.itemsOf (d.lastBuilt "slides")).map (fun i => d.lineOf i + 1) = [6] := by
  have hlines : (ofTextWithLines slidesTwice).toOption.map Prod.snd = some [4] := by
    decide +kernel
  obtain ⟨⟨deck, lines⟩, hread, rfl⟩ := Option.map_eq_some_iff.1 hlines
  replace hread := Attempt.eq_ok_of_toOption hread
  obtain ⟨d, es, xs, htokens, -, hreads, -⟩ := exists_reads hread
  refine ⟨deck, hread, d, es, xs, htokens, hreads, ?_⟩
  have hlast : ((Document.ofTokens? (Yaml.tokens slidesTwice)).toOption.bind id).map
      (fun d => (d.itemsOf (d.lastBuilt "slides")).map fun i => d.lineOf i + 1) = some [6] := by
    decide +kernel
  rw [htokens] at hlast
  exact Option.some.inj hlast

end Deck

end SlidePress
