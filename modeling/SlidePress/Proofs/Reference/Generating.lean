import SlidePress.Proofs.Citation.Expansion
import SlidePress.Proofs.Distinct
import SlidePress.Proofs.Reference.Plain

/-! # Making bibliographies

A source that never fails answers all questions from what it holds: a shelf (`Shelf.holds`), or a source
that is asked name by name (`ReferenceSource.holds_ofFind`). If what it holds is attributed, a
bibliography can be made of any names in any order that exists, and it covers them: each name, however
often it is asked for, has its reference among the items or else is missing
(`Bibliography.exists_covers`). -/

namespace SlidePress

/-- A source that answers every question from what it holds. -/
def ReferenceSource.Holds (source : ReferenceSource) (held : String → Option Reference) : Prop :=
  ∀ ids, ∃ found, source.findAll ids = .ok found ∧ ∀ id ∈ ids, found.lookup id = held id

theorem ReferenceSource.holds_ofFind (available : Bool) (held : String → Option Reference) :
    (ofFind available fun id => .ok (held id)).Holds held := fun ids =>
  ⟨_, findAll_ofFind_eq available held ids, fun id hid => by
    rw [CitationStyle.lookup_filterMap, if_pos (List.mem_eraseDups.2 hid)]⟩

theorem Shelf.lookup_findAll (shelf : Shelf) {ids : List String} {id : String} (h : id ∈ ids) :
    (shelf.findAll ids).lookup id = shelf.get? (.str id) := by
  rw [findAll, CitationStyle.lookup_filterMap (fun id => shelf.get? (.str id)),
    if_pos (List.mem_eraseDups.2 h)]

theorem Shelf.holds (shelf : Shelf) : shelf.source.Holds fun id => shelf.get? (.str id) := fun _ =>
  ⟨_, rfl, fun _ => shelf.lookup_findAll⟩

namespace Bibliography

variable {source : ReferenceSource} {held : String → Option Reference} {ids : List String}
  {order : Value} {o : ReferenceOrder}

/-- A bibliography can be made if what is held under its names is attributed. -/
theorem exists_generate (hsource : source.Holds held) (ho : ReferenceOrder.ofValue order = .ok o)
    (hheld : ∀ id ∈ ids, ∀ r ∈ held id, r.Attributed) :
    ∃ items entries, generate source ids order =
        .ok ⟨entries, items, ids.eraseDups.filter fun id => (held id).isNone⟩ ∧
      o.Arranges (ids.eraseDups.filterMap held) items ∧
      items.mapM Reference.fullEntry = .ok entries := by
  have hattributed : ∀ r ∈ ids.eraseDups.filterMap held, r.Attributed := fun r hr => by
    obtain ⟨id, hid, hr⟩ := List.mem_filterMap.1 hr
    exact hheld id (List.mem_eraseDups.1 hid) r hr
  obtain ⟨items, hitems, harranges⟩ := o.exists_arrange hattributed
  obtain ⟨entries, hentries, -⟩ := Attempt.exists_mapM (R := fun _ _ => True) fun r hr => by
    obtain ⟨e, he⟩ := (hattributed r (harranges.perm.mem_iff.1 hr)).exists_fullEntry
    exact ⟨e, he, trivial⟩
  refine ⟨items, entries, ?_, harranges, hentries⟩
  by_cases hids : ids = []
  · -- without names nothing is asked, and there is nothing to arrange
    subst hids
    obtain rfl : items = [] := List.perm_nil.1 harranges.perm
    cases hentries
    rfl
  · obtain ⟨found, hfound, hlookup⟩ := hsource ids.eraseDups
    have hknown : (ids.eraseDups.filterMap fun id => found.lookup id) = ids.eraseDups.filterMap held :=
      List.filterMap_congr hlookup
    have hmissing : (ids.eraseDups.filter fun id => (found.lookup id).isNone) =
        ids.eraseDups.filter fun id => (held id).isNone :=
      List.filter_congr fun id hid => by rw [hlookup id hid]
    have harranged : Reference.arranged order (ids.eraseDups.filterMap held) = .ok items := by
      rw [Reference.arranged, Attempt.bind_ok ho, hitems]
      rfl
    have hwritten : Lookup.ofAttempt (items.mapM Reference.fullEntry) = .ok entries := by
      rw [hentries]
      rfl
    unfold generate
    simp only [isEmpty_eraseDups hids, Bool.false_eq_true, if_false]
    refine (Attempt.bind_ok hfound _).trans ?_
    rw [hknown, hmissing]
    exact (Attempt.bind_ok harranged _).trans (Attempt.bind_ok hwritten _)

/-- **A bibliography that covers some names**: with the names that are not held, the references of all
others in an order, and the entry of each of them. Names that are asked for again count once. -/
structure Covers (held : String → Option Reference) (ids : List String) (o : ReferenceOrder)
    (b : Bibliography) : Prop where
  missing : b.missing = ids.eraseDups.filter fun id => (held id).isNone
  perm : b.items.Perm (ids.eraseDups.filterMap held)
  arranged : o.Arranges (ids.eraseDups.filterMap held) b.items
  entries : List.Forall₂ (fun r e => r.fullEntry = .ok e) b.items b.entries
  length_add : b.items.length + b.missing.length = ids.eraseDups.length

theorem length_filterMap_add_length_filter {α β : Type} (f : α → Option β) (as : List α) :
    (as.filterMap f).length + (as.filter fun a => (f a).isNone).length = as.length := by
  induction as with
  | nil => rfl
  | cons a as ih =>
    rw [List.filterMap_cons, List.filter_cons, List.length_cons]
    cases f a with
    | none =>
      simp only [Option.isNone_none, if_true, List.length_cons]
      omega
    | some b =>
      simp only [Option.isNone_some, Bool.false_eq_true, if_false, List.length_cons]
      omega

/-- **Bibliographies** of names in an order that exists cover the names, if what is held under them is
attributed. -/
theorem exists_covers (hsource : source.Holds held) (ho : ReferenceOrder.ofValue order = .ok o)
    (hheld : ∀ id ∈ ids, ∀ r ∈ held id, r.Attributed) :
    ∃ b, generate source ids order = .ok b ∧ b.Covers held ids o := by
  obtain ⟨items, entries, hb, harranges, hentries⟩ := exists_generate hsource ho hheld
  refine ⟨_, hb, rfl, harranges.perm, harranges, Attempt.mapM_eq_ok.1 hentries, ?_⟩
  rw [harranges.perm.length_eq]
  exact length_filterMap_add_length_filter held _

/-- An item with an author and a year. -/
def dated (id family : String) (year : Int) : Entries :=
  Entries.ofNames [("id", .str id), ("author", .list [.map (Entries.ofNames [("family", .str family)])]),
    ("issued", .map (Entries.ofNames [("date-parts", .list [.list [.int year]])]))]

/-- A shelf with two items of one year and one item that has neither author nor year. -/
def insects : Shelf :=
  ⟨[(.str "wasps", .map (dated "wasps" "Poe" 2021)), (.str "ants", .map (dated "ants" "Doe" 2021)),
    (.str "bees", .map (Entries.ofNames [("id", .str "bees"), ("title", .str "Bees")]))]⟩

theorem attributed_dated (id family : String) (year : Int) :
    Reference.Attributed ⟨dated id family year⟩ where
  year v hv := by
    cases hv
    exact .inr ⟨year, rfl⟩
  authors := by
    refine .inr ⟨_, rfl, fun v hv => ?_⟩
    obtain rfl := List.mem_singleton.1 hv
    exact ⟨_, rfl, .inr ⟨family, rfl⟩, .inl rfl⟩

/-- Names with repetitions, one of which is not on the shelf. -/
def wanted : List String := ["wasps", "moths", "ants", "wasps", "bees", "moths"]

/-- By year, the item without one is first, and the other two stand as they were asked for. -/
theorem exists_covers_insects : ∃ b, generate insects.source wanted (.str "year") = .ok b ∧
    b.Covers (fun id => insects.get? (.str id)) wanted .year ∧ b.missing = ["moths"] ∧
      b.items.map (fun r => (r.field "id").text) = ["bees", "wasps", "ants"] := by
  have hyear : ReferenceOrder.ofValue (.str "year") = .ok .year := rfl
  have hheld : ∀ id ∈ wanted, ∀ r ∈ insects.get? (.str id), r.Attributed := by
    simp only [wanted, List.forall_mem_cons, List.not_mem_nil, false_imp_iff, implies_true, and_true]
    refine ⟨?_, ?_, ?_, ?_, ?_, ?_⟩ <;> rintro r ⟨⟩
    · exact attributed_dated _ _ _
    · exact attributed_dated _ _ _
    · exact attributed_dated _ _ _
    · exact ⟨fun _ hv => (by cases hv), .inl rfl⟩
  obtain ⟨b, hb, hcovers⟩ := exists_covers insects.holds hyear hheld
  have hitems : (generate insects.source wanted (.str "year")).toOption.map
      (fun b => b.items.map fun r => (r.field "id").text) = some ["bees", "wasps", "ants"] := by
    decide +kernel
  rw [hb] at hitems
  exact ⟨b, hb, hcovers, hcovers.missing.trans (by decide +kernel), Option.some.inj hitems⟩

end Bibliography

end SlidePress
