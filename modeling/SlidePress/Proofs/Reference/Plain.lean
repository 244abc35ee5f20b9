import SlidePress.Proofs.Packaged.Schemas
import SlidePress.Reference.Bibliography

/-! # Plain references

A reference is attributed if its year is an integer and its authors are mappings whose names are
texts, as far as they are there. Then it has an entry (`Attributed.exists_fullEntry`) and a place in any
order (`exists_arrange`). It is plain if its titles are texts as well. Then the data for templates can
be written too, and it conforms to the schema of references (`Plain.exists_templateEntry`). -/

namespace SlidePress

/-- A field holds a text, or it is null or missing. -/
def Entries.MaybeText (es : Entries) (name : String) : Prop :=
  es.getD name = .null ∨ ∃ s, es.getD name = .str s

theorem Entries.MaybeText.eq_str {es : Entries} {name : String} (h : es.MaybeText name)
    (ht : (es.getD name).truthy = true) : ∃ s, es.getD name = .str s := by
  rcases h with h | h
  · rw [h] at ht
    cases ht
  · exact h

namespace Reference

/-- What stands at the place of the year. -/
def issued? (r : Reference) : Option Value :=
  ((named? "date-parts" (r.field "issued")).bind first?).bind first?

/-- A reference whose parts have their kinds. -/
structure Plain (r : Reference) : Prop where
  title : r.fields.MaybeText "title"
  journal : r.fields.MaybeText "container-title"
  year : ∀ v, r.issued? = some v → v = .null ∨ ∃ n, v = .int n
  authors : r.field "author" = .null ∨ ∃ vs, r.field "author" = .list vs ∧
    ∀ v ∈ vs, ∃ es : Entries, v = .map es ∧ es.MaybeText "family" ∧ es.MaybeText "given"

/-- A reference whose year and authors have their kinds. -/
structure Attributed (r : Reference) : Prop where
  year : ∀ v, r.issued? = some v → v = .null ∨ ∃ n, v = .int n
  authors : r.field "author" = .null ∨ ∃ vs, r.field "author" = .list vs ∧
    ∀ v ∈ vs, ∃ es : Entries, v = .map es ∧ es.MaybeText "family" ∧ es.MaybeText "given"

theorem Plain.attributed {r : Reference} (h : r.Plain) : r.Attributed := ⟨h.year, h.authors⟩

/-- An author whose names are texts, the family name one that is not empty. -/
structure Author.Plain (a : Author) : Prop where
  family : ∃ s, a.family = .str s
  given : Entries.MaybeText a "given"

/-! ### Authors -/

theorem exists_authorsAmong {vs : List Value} (h : ∀ v ∈ vs, ∃ es : Entries, v = .map es ∧
    es.MaybeText "family" ∧ es.MaybeText "given") :
    ∃ as, authorsAmong vs = .ok as ∧ ∀ a ∈ as, Author.Plain a := by
  induction vs with
  | nil => exact ⟨[], rfl, fun _ h => by cases h⟩
  | cons v vs ih =>
    obtain ⟨as, has, hplain⟩ := ih fun w hw => h w (List.mem_cons_of_mem v hw)
    obtain ⟨es, rfl, hfamily, hgiven⟩ := h v List.mem_cons_self
    refine ⟨_, authorsAmong_cons_map es vs as has, ?_⟩
    split_ifs with ht
    · exact List.forall_mem_cons.2 ⟨⟨hfamily.eq_str ht, hgiven⟩, hplain⟩
    · exact hplain

theorem exists_authors {r : Reference} (h : r.field "author" = .null ∨
    ∃ vs, r.field "author" = .list vs ∧ ∀ v ∈ vs, ∃ es : Entries, v = .map es ∧
      es.MaybeText "family" ∧ es.MaybeText "given") :
    ∃ as, r.authors = .ok as ∧ ∀ a ∈ as, Author.Plain a := by
  rw [Reference.authors]
  rcases h with hnull | ⟨vs, hvs, hplain⟩
  · exact ⟨[], by rw [hnull]; rfl, fun _ h => by cases h⟩
  · rw [hvs]
    split_ifs
    · exact exists_authorsAmong hplain
    · exact ⟨[], rfl, fun _ h => by cases h⟩

theorem Attributed.exists_authors {r : Reference} (h : r.Attributed) :
    ∃ as, r.authors = .ok as ∧ ∀ a ∈ as, Author.Plain a := Reference.exists_authors h.authors

namespace Author.Plain

variable {a : Author}

theorem abbreviated_eq {s : String} {c : Char} {cs : List Char} (hs : s.toList = c :: cs) :
    abbreviated (.str s) = .ok (String.singleton c ++ ".") := by
  have hat : (Value.str s).at? 0 = some (.str (String.singleton c)) := by
    simp [Value.at?, Value.placeOf?, hs]
  simp only [abbreviated, hat]
  rfl

theorem exists_abbreviated {s : String} (hs : (Value.str s).truthy = true) :
    ∃ t, abbreviated (.str s) = .ok t := by
  obtain ⟨c, cs, hc⟩ : ∃ c cs, s.toList = c :: cs := by
    refine List.exists_cons_of_ne_nil fun hnil => ?_
    rw [String.toList_eq_nil_iff.1 hnil] at hs
    cases hs
  exact ⟨_, abbreviated_eq hc⟩

theorem exists_initial (h : Author.Plain a) : ∃ t, a.initial = .ok t := by
  unfold Author.initial
  split_ifs with ht
  · obtain ⟨s, hs⟩ := h.given.eq_str ht
    have hgiven : a.given = .str s := hs
    rw [hgiven] at ht ⊢
    exact exists_abbreviated ht
  · exact ⟨"", rfl⟩

theorem exists_withInitial (h : Author.Plain a) : ∃ t, a.withInitial = .ok t := by
  obtain ⟨t, ht⟩ := h.exists_initial
  exact ⟨_, Attempt.bind_ok ht _⟩

theorem exists_templateName (h : Author.Plain a) : ∃ s, a.templateName = .ok (.str s) := by
  unfold Author.templateName
  split_ifs with ht
  · obtain ⟨s, hs⟩ := h.given.eq_str ht
    have hgiven : a.given = .str s := hs
    rw [hgiven] at ht ⊢
    obtain ⟨t, ht⟩ := exists_abbreviated ht
    exact ⟨_, Attempt.bind_ok ht _⟩
  · obtain ⟨s, hs⟩ := h.family
    exact ⟨s, by rw [hs]⟩

end Author.Plain

theorem exists_isJapanese {as : List Author} (h : ∀ a ∈ as, Author.Plain a) :
    ∃ b, isJapanese as = .ok b := by
  cases as with
  | nil => exact ⟨false, rfl⟩
  | cons a as =>
    obtain ⟨s, hs⟩ := (h a List.mem_cons_self).family
    exact ⟨_, by rw [isJapanese, hs]⟩

theorem exists_namedList {as : List Author} (h : ∀ a ∈ as, Author.Plain a) :
    ∃ names, namedList as = .ok names := by
  induction as with
  | nil => exact ⟨[], rfl⟩
  | cons a as ih =>
    obtain ⟨t, ht⟩ := (h a List.mem_cons_self).exists_withInitial
    obtain ⟨names, hnames⟩ := ih fun b hb => h b (List.mem_cons_of_mem a hb)
    cases as with
    | nil => exact ⟨_, Attempt.bind_ok ht _⟩
    | cons b bs => exact ⟨_, (Attempt.bind_ok ht _).trans (Attempt.bind_ok hnames _)⟩

theorem exists_allAuthors {as : List Author} (h : ∀ a ∈ as, Author.Plain a) (japanese : Bool) :
    ∃ s, allAuthors as japanese = .ok s := by
  match as, japanese with
  | [], _ => exact ⟨_, rfl⟩
  | a :: as, true => exact ⟨_, rfl⟩
  | [a], false => exact (h a List.mem_cons_self).exists_withInitial
  | a :: b :: as, false =>
    obtain ⟨names, hnames⟩ := exists_namedList h
    exact ⟨_, Attempt.bind_ok hnames _⟩

/-! ### Entries -/

variable {r : Reference}

theorem year_eq (r : Reference) : r.year = r.issued?.elim (.ok 0) wholeNumber := by
  unfold Reference.year issued?
  cases ((named? "date-parts" (r.field "issued")).bind first?).bind first? <;> rfl

theorem Attributed.exists_year (h : r.Attributed) : ∃ n, r.year = .ok n := by
  rw [Reference.year_eq]
  cases hissued : r.issued? with
  | none => exact ⟨0, rfl⟩
  | some v =>
    rcases h.year v hissued with rfl | ⟨n, rfl⟩
    · exact ⟨0, rfl⟩
    · exact ⟨n, rfl⟩

/-- Where the authors have their kinds, only the year can keep an entry from being written. -/
theorem exists_fullEntry_eq {as : List Author} (has : r.authors = .ok as)
    (hplain : ∀ a ∈ as, Author.Plain a) :
    ∃ head japanese, r.fullEntry = r.year.map fun y =>
      " ".intercalate ([head, "(" ++ toString y ++ ")."] ++
        [r.title?, r.journal? japanese, r.identifier?].filterMap id) := by
  obtain ⟨japanese, hjapanese⟩ := exists_isJapanese hplain
  obtain ⟨head, hhead⟩ := exists_allAuthors hplain japanese
  refine ⟨head, japanese, (Attempt.bind_ok has _).trans ((Attempt.bind_ok hjapanese _).trans
    ((Attempt.bind_ok hhead _).trans ?_))⟩
  cases r.year <;> rfl

/-- **The entry of an attributed reference** can be written. -/
theorem Attributed.exists_fullEntry (h : r.Attributed) : ∃ e, r.fullEntry = .ok e := by
  obtain ⟨as, has, hplain⟩ := h.exists_authors
  obtain ⟨head, japanese, hentry⟩ := exists_fullEntry_eq has hplain
  obtain ⟨n, hn⟩ := h.exists_year
  exact ⟨_, hentry.trans (by rw [hn]; rfl)⟩

/-! ### Orders -/

/-- The family name of the first author who has one, empty if there is none. -/
def leadName (r : Reference) : String :=
  match r.authors with
  | .ok (a :: _) => a.family.text
  | _ => ""

/-- The year of a reference, zero if it is not known. -/
def yearNumber (r : Reference) : Int := r.year.toOption.getD 0

theorem Attributed.firstFamily_eq (h : r.Attributed) : r.firstFamily = .ok (.str r.leadName) := by
  obtain ⟨as, has, hplain⟩ := h.exists_authors
  rw [firstFamily, Attempt.bind_ok has, leadName, has]
  cases as with
  | nil => rfl
  | cons a as =>
    obtain ⟨s, hs⟩ := (hplain a List.mem_cons_self).family
    simp only [hs]
    rfl

theorem Attributed.year_eq (h : r.Attributed) : r.year = .ok r.yearNumber := by
  obtain ⟨n, hn⟩ := h.exists_year
  rw [yearNumber, hn]
  rfl

/-- References with keys of one kind can be sorted. -/
theorem exists_sortBy {κ : Type} [LinearOrder κ] {key : Reference → κ} {value : κ → Value}
    {found : Reference → Attempt Value} (hv : Value.Compares value) {rs : List Reference}
    (hfound : ∀ r ∈ rs, found r = .ok (value (key r))) :
    ∃ sorted, sortBy found rs = .ok sorted ∧ Value.StablySorted key rs sorted := by
  have hkeyed : (rs.mapM fun r => do return (← found r, r)) =
      Except.ok (rs.map (Value.keyed key value)) := by
    refine Attempt.mapM_eq_ok_iff_map.2 ?_
    rw [List.map_map]
    exact List.map_congr_left fun r hr => Attempt.bind_ok (hfound r hr) _
  obtain ⟨sorted, hsorted, h⟩ := Value.exists_sortOn key hv rs
  exact ⟨sorted, (Attempt.bind_ok hkeyed _).trans hsorted, h⟩

end Reference

/-- These are some references in an order: as they are, or stably sorted by family name or year. -/
def ReferenceOrder.Arranges : ReferenceOrder → List Reference → List Reference → Prop
  | cited, rs, arranged => arranged = rs
  | author, rs, arranged => Value.StablySorted Reference.leadName rs arranged
  | year, rs, arranged => Value.StablySorted Reference.yearNumber rs arranged

/-- **Attributed references** can be put in any order. -/
theorem ReferenceOrder.exists_arrange (o : ReferenceOrder) {rs : List Reference}
    (h : ∀ r ∈ rs, r.Attributed) : ∃ arranged, o.arrange rs = .ok arranged ∧ o.Arranges rs arranged := by
  cases o with
  | cited => exact ⟨rs, rfl, rfl⟩
  | author => exact Reference.exists_sortBy Value.compares_str fun r hr => (h r hr).firstFamily_eq
  | year =>
    exact Reference.exists_sortBy Value.compares_int fun r hr => Attempt.bind_ok (h r hr).year_eq _

/-- No reference is lost or added. -/
theorem ReferenceOrder.Arranges.perm {o : ReferenceOrder} {rs arranged : List Reference}
    (h : o.Arranges rs arranged) : arranged.Perm rs := by
  cases o with
  | cited => exact .of_eq h
  | author => exact Value.StablySorted.perm h
  | year => exact Value.StablySorted.perm h

namespace Reference

open Schema Packaged

variable {r : Reference}

/-! ### Data for templates -/

/-- What the fields of the data for templates hold: something that is the same wherever it is taken
out of and, unless it is null, conforms to what the schema of references declares. -/
structure Fits (d v : Value) : Prop where
  unmoved : ∀ whole depth, Value.outOf whole depth v = v
  conforms : v ≠ .null → Conforms d v

theorem fits_text {v : Value} {s : String} (h : v.text? = some s) : Fits text v := by
  refine ⟨fun whole depth => ?_, fun _ => conforms_text.2 ⟨s, h⟩⟩
  cases v with
  | str _ | markup _ => rfl
  | _ => cases h

theorem fits_null (d : Value) : Fits d .null := ⟨fun _ _ => rfl, fun h => absurd rfl h⟩

theorem fits_maybeText {es : Entries} {name : String} (h : es.MaybeText name) :
    Fits text (es.getD name) := by
  rcases h with h | ⟨s, h⟩
  · rw [h]
    exact fits_null _
  · rw [h]
    exact fits_text rfl

theorem fits_title (h : r.Plain) : Fits text ((r.fields.get? "title").getD (.str "")) := by
  cases hget : r.fields.get? "title" with
  | none => exact fits_text rfl
  | some v =>
    have hv : r.fields.getD "title" = v := by rw [Entries.getD, hget]; rfl
    exact hv ▸ fits_maybeText h.title

theorem fits_authors (names : List String) :
    Fits (listOf [] text) (if (names.map Value.str).isEmpty then .null else .list (names.map .str)) := by
  split_ifs
  · exact fits_null _
  · refine ⟨fun whole depth => outOf_texts whole depth names,
      fun _ => ?_⟩
    refine (conforms_listOf_nil (by simp [Packaged.text, kind])).2 ⟨_, rfl, fun v hv => ?_⟩
    rw [Value.members, outOfList_texts] at hv
    obtain ⟨s, -, rfl⟩ := List.mem_map.1 hv
    exact conforms_text.2 ⟨s, rfl⟩

theorem fits_year (n : Int) : Fits integer (if n = 0 then .null else .int n) := by
  split_ifs
  · exact fits_null _
  · exact ⟨fun _ _ => rfl, fun _ => conforms_integer.2 ⟨n, .inl rfl⟩⟩

/-- Data whose fields fit conforms, also inside a list that is taken out of a mapping. -/
theorem conforms_of_fits {ps : List (String × Value)} {properties : List (String × Value)}
    {required : List String}
    (hfits : ∀ p ∈ properties, ∀ v, (p.1, v) ∈ ps → Fits (orNothing p.2) v)
    (hrequired : ∀ name ∈ required, ∃ v, ps.lookup name = some v ∧ v ≠ .null ∧
      ∀ whole depth, Value.outOf whole depth v = v) (whole inner : Value) (m n : Nat) :
    Conforms (.map (Packaged.fields required properties))
      (Value.outOf inner n (Value.outOf whole m (.map (Entries.ofNames ps)))) := by
  refine conforms_fields.2 ⟨_, rfl, fun p hp x hx => ?_, fun name hname => ?_⟩
  · obtain ⟨v', hv', rfl, hnull⟩ := present?_members_eq_some.1 hx
    rw [Entries.get?_outOfEntries, Entries.get?_outOfEntries, Option.map_map] at hv'
    obtain ⟨v, hv, rfl⟩ := Option.map_eq_some_iff.1 hv'
    have hfit := hfits p hp v (Entries.mem_of_get?_ofNames hv)
    rw [Function.comp_apply, hfit.unmoved, hfit.unmoved, hfit.unmoved] at hnull ⊢
    exact hfit.conforms hnull
  · obtain ⟨v, hv, hnull, hunmoved⟩ := hrequired name hname
    refine Option.isSome_of_eq_some (present?_members_eq_some.2 ⟨v, ?_, hunmoved _ _, hnull⟩)
    rw [Entries.get?_outOfEntries, Entries.get?_outOfEntries, Entries.get?_ofNames, hv,
      Option.map_some, Option.map_some, hunmoved, hunmoved]

/-- **The data for templates** of a plain reference with a name conforms to the schema of
references. -/
theorem Plain.exists_templateEntry (h : r.Plain) {id : String}
    (hid : (r.field "id").text? = some id) : ∃ es, r.templateEntry = .ok es ∧
      ∀ whole inner m n,
        Conforms referenceSchema (Value.outOf inner n (Value.outOf whole m (.map es))) := by
  obtain ⟨as, has, hplain⟩ := h.attributed.exists_authors
  obtain ⟨names, hnames⟩ : ∃ names : List String,
      as.mapM Author.templateName = .ok (names.map Value.str) := by
    refine ⟨as.map fun a => (a.templateName.toOption.getD .null).text, ?_⟩
    refine Attempt.mapM_eq_ok_iff_map.2 ?_
    rw [List.map_map, List.map_map]
    refine List.map_congr_left fun a ha => ?_
    obtain ⟨s, hs⟩ := (hplain a ha).exists_templateName
    rw [Function.comp_apply, Function.comp_apply, hs]
    rfl
  obtain ⟨n, hn⟩ := h.attributed.exists_year
  obtain ⟨key, hkey⟩ : ∃ key, r.fields.get? "id" = some key := by
    rcases hget : r.fields.get? "id" with _ | key
    · rw [field, Entries.getD, hget] at hid
      cases hid
    · exact ⟨key, rfl⟩
  have hkeyText : key.text? = some id := by rwa [field, Entries.getD, hkey] at hid
  have hfound : Attempt.ofOption .noKey (r.fields.get? "id") = .ok key := by rw [hkey]; rfl
  refine ⟨_, (Attempt.bind_ok has _).trans ((Attempt.bind_ok hnames _).trans
    ((Attempt.bind_ok hfound _).trans (Attempt.bind_ok hn _))), ?_⟩
  refine conforms_of_fits (fun p hp v hv => ?_) fun name hname => ?_
  · have hv : (p.1, v) ∈ [("id", key), ("title", (r.fields.get? "title").getD (.str ""))] ++
        [("authors", if (names.map Value.str).isEmpty then .null else .list (names.map Value.str)),
          ("year", if n = 0 then .null else .int n), ("journal", r.field "container-title"),
          ("volume", r.field "volume"), ("pages", r.field "page"), ("doi", r.field "DOI"),
          ("url", r.field "URL")] := by
      rcases List.mem_append.1 hv with hv | hv
      · exact List.mem_append_left _ hv
      · exact List.mem_append_right _ (List.mem_of_mem_filter hv)
    simp only [List.mem_cons, List.not_mem_nil, or_false] at hp
    rcases hp with rfl | rfl | rfl | rfl | rfl
    · obtain rfl : v = key := by simpa using hv
      exact fits_text hkeyText
    · obtain rfl : v = if (names.map Value.str).isEmpty then .null else .list (names.map .str) := by
        simpa using hv
      exact fits_authors names
    · obtain rfl : v = (r.fields.get? "title").getD (.str "") := by simpa using hv
      exact fits_title h
    · obtain rfl : v = if n = 0 then .null else .int n := by simpa using hv
      exact fits_year n
    · obtain rfl : v = r.field "container-title" := by simpa using hv
      exact fits_maybeText h.journal
  · obtain rfl := List.mem_singleton.1 hname
    refine ⟨key, rfl, ?_, (fits_text hkeyText).unmoved⟩
    rintro rfl
    cases hkeyText

end Reference

/-! ### Shelves -/

namespace Shelf

/-- What is found after an item has been put on a shelf. -/
theorem get?_add {shelf shelf' : Shelf} {item : Value} (h : shelf.add item = .ok shelf')
    (id : String) : ∃ es : Entries, item = .map es ∧ shelf'.get? (.str id) =
      if (es.getD "id").text? = some id then some ⟨es⟩ else shelf.get? (.str id) := by
  unfold add at h
  split at h
  · rename_i es
    dsimp only at h
    split_ifs at h
    cases h
    refine ⟨es, rfl, ?_⟩
    have hget := Entries.get?_insert shelf.held (Entries.getD es "id") (.map es) id
    unfold get?
    rw [show Entries.find? _ (.str id) = _ from hget]
    split_ifs <;> rfl
  · cases h

/-- A reference on a shelf is one of the items that were put there, and has the name under which it
is found. -/
theorem mem_of_get?_addAll {items : List Value} : ∀ {shelf shelf' : Shelf} {id : String}
    {r : Reference}, shelf.addAll items = .ok shelf' → shelf'.get? (.str id) = some r →
      shelf.get? (.str id) = some r ∨ .map r.fields ∈ items ∧ (r.field "id").text? = some id := by
  induction items with
  | nil =>
    intro shelf shelf' id r h hr
    cases h
    exact .inl hr
  | cons item items ih =>
    intro shelf shelf' id r h hr
    unfold addAll at h ih
    rw [List.foldlM_cons] at h
    obtain ⟨next, hnext, h⟩ := Attempt.bind_eq_ok.1 h
    rcases ih h hr with hr | ⟨hmem, hid⟩
    · obtain ⟨es, rfl, hget⟩ := get?_add hnext id
      rw [hget] at hr
      split_ifs at hr with hid
      · cases hr
        exact .inr ⟨List.mem_cons_self, hid⟩
      · exact .inl hr
    · exact .inr ⟨List.mem_cons_of_mem item hmem, hid⟩

end Shelf

end SlidePress
