import SlidePress.Proofs.Compile.Bibliography

/-! # All bibliographies or none

A slide that gets its bibliography keeps everything but three fields of its content, and the content
keeps its other entries (`Entries.lists_listing`). The slides of a deck are filled in one after the
other up to the first one that fails (`Deck.fillBibliographies_cases`). If one fails, the deck stays as
it is, whatever has been filled in before, and one warning says so behind those about missing references
(`Deck.withBibliographies_cases`). -/

namespace SlidePress

/-! ### Content -/

namespace Entries

/-- The fields of a listing. -/
def listingNames : List String := ["references", "_autoGenerated", "_generatedEntries"]

/-- Whether a key is none of the fields of a listing. -/
def isAside (k : Value) : Bool := !(listingNames.any fun name => k.text? == some name)

/-- **Content with a listing**: three fields are set, in place if they have been there and at the end
otherwise, and all other entries are as they were. -/
structure Lists (references : List Entries) (entries : List String) (es fs : Entries) : Prop where
  references : fs.get? "references" = some (.list (references.map .map))
  generated : fs.get? "_autoGenerated" = some (.bool true)
  entries : fs.get? "_generatedEntries" = some (.list (entries.map .str))
  keys : fs.map Prod.fst =
    es.map Prod.fst ++ (listingNames.filter fun name => (es.get? name).isNone).map .str
  others : (fs.filter fun e => isAside e.1) = es.filter fun e => isAside e.1

theorem keys_insert (es : Entries) (name : String) (v : Value) :
    (insert es (.str name) v).map Prod.fst =
      es.map Prod.fst ++ if (es.get? name).isNone then [.str name] else [] := by
  induction es with
  | nil => rfl
  | cons e es ih =>
    rw [insert, get?, find?_cons]
    cases h : (Value.str name).same e.1 with
    | true => simp
    | false => simpa [get?] using ih

theorem filter_insert {p : Value → Bool} {name : String} (v : Value)
    (hp : ∀ k : Value, k.text? = some name → p k = false) (es : Entries) :
    ((insert es (.str name) v).filter fun e => p e.1) = es.filter fun e => p e.1 := by
  induction es with
  | nil => simp [insert, hp (.str name) rfl]
  | cons e es ih =>
    rw [insert]
    cases h : (Value.str name).same e.1 with
    | true =>
      have hkey : p e.1 = false := hp e.1 (Value.str_same_iff.1 h)
      simp [hkey]
    | false => simp [List.filter_cons, ih]

theorem lists_listing (es : Entries) (references : List Entries) (entries : List String) :
    Lists references entries es (listing es references entries) where
  references := get?_listing _
  generated := get?_listing _
  entries := get?_listing _
  keys := by
    rw [listing_eq, keys_insert, keys_insert, keys_insert, get?_insert, get?_insert, get?_insert]
    simp only [listingNames, List.filter_cons, List.filter_nil, Value.text?, List.append_assoc]
    cases es.get? "references" <;> cases es.get? "_autoGenerated" <;>
      cases es.get? "_generatedEntries" <;> rfl
  others := by
    have haside {name : String} (hname : name ∈ listingNames) (k : Value) (hk : k.text? = some name) :
        isAside k = false := by
      rw [isAside, Bool.not_eq_false', List.any_eq_true]
      exact ⟨name, hname, beq_iff_eq.2 hk⟩
    rw [listing_eq, filter_insert _ (haside (by simp [listingNames])),
      filter_insert _ (haside (by simp [listingNames])),
      filter_insert _ (haside (by simp [listingNames]))]

end Entries

/-! ### Slides -/

/-- **What becomes of a slide** if all bibliographies can be made: a slide that wants one has its items and
their entries in its content, any other slide is as it was. -/
inductive Slide.Completed (source : ReferenceSource) (ids : List String) : Slide → Slide → Prop
  | kept {s : Slide} (h : s.wantsBibliography = false) : Completed source ids s s
  | listed {s : Slide} {b : Bibliography} {references : List Entries} {content : Entries}
      (h : s.wantsBibliography = true)
      (hb : Bibliography.generate source ids s.bibliographyOrder = .ok b)
      (hitems : b.items.mapM Reference.templateEntry = .ok references)
      (hcontent : s.content.Lists references b.entries content) :
      Completed source ids s { s with content := content }

variable {source : ReferenceSource} {ids : List String}

theorem Slide.Filled.completed {s t : Slide} (h : s.Filled source ids t) : s.Completed source ids t := by
  cases h with
  | kept h => exact .kept h
  | filled h hb ht =>
    obtain ⟨references, hitems, ht⟩ := Attempt.bind_eq_ok.1 ht
    cases ht
    exact .listed h hb hitems (Entries.lists_listing _ _ _)

namespace Deck

/-- **Slides are filled in** up to the first one that fails. -/
theorem fillBibliographies_cases (source : ReferenceSource) (ids : List String) (ss : List Slide) :
    (∃ out, List.Forall₂ (Slide.Filled source ids) ss out ∧
      fillBibliographies source ids ss = (ss.flatMap (Slide.missingWarnings source ids), .ok out)) ∨
    ∃ before s after e, ss = before ++ s :: after ∧
      (∃ filled, List.Forall₂ (Slide.Filled source ids) before filled) ∧ s.FailsWith source ids e ∧
      fillBibliographies source ids ss =
        (before.flatMap (Slide.missingWarnings source ids) ++ s.missingWarnings source ids,
          .error e) := by
  induction ss with
  | nil => exact .inl ⟨[], .nil, rfl⟩
  | cons s ss ih =>
    rcases s.filled_or_failsWith source ids with ⟨t, ht⟩ | ⟨e, he⟩
    · rw [fillBibliographies_cons_of_filled ht]
      rcases ih with ⟨out, hout, heq⟩ | ⟨before, s', after, e, rfl, ⟨filled, hfilled⟩, he, heq⟩
      · exact .inl ⟨t :: out, .cons ht hout, by rw [heq]; rfl⟩
      · refine .inr ⟨s :: before, s', after, e, rfl, ⟨t :: filled, .cons ht hfilled⟩, he, ?_⟩
        rw [heq, List.flatMap_cons, List.append_assoc]
        rfl
    · rw [fillBibliographies_cons_of_failsWith he]
      exact .inr ⟨[], s, ss, e, rfl, ⟨[], .nil⟩, he, rfl⟩

/-- The warning that bibliographies cannot be filled in. -/
def failureWarning (report : String) : String := "Failed to auto-generate bibliography: " ++ report

theorem ne_failureWarning_of_mem {w : String} {s : Slide} (h : w ∈ s.missingWarnings source ids)
    (report : String) : w ≠ failureWarning report := by
  unfold Slide.missingWarnings at h
  split at h
  · split at h
    · obtain ⟨id, -, rfl⟩ := List.mem_map.1 h
      exact append_ne_append (x := 'B') (y := 'F') rfl rfl (by decide) id report
    · cases h
  · cases h

/-- **All bibliographies or none.** In a deck with references that are looked up in a source that can be
asked, either every slide that wants a bibliography gets it, all other slides stay, and each reference
that a bibliography misses is warned of; or one slide fails, the deck stays as it is, and behind the
warnings about missing references, those of the slides before it and perhaps its own, there is the one
warning that says why. -/
theorem withBibliographies_cases (describe : Fault → String) {c : Config} {d : Deck} (hids : ids ≠ [])
    (henabled : d.referencesEnabled c = true) (havailable : source.available = true) :
    (∃ out, List.Forall₂ (Slide.Completed source ids) d.slides out ∧
      d.withBibliographies describe c source ids =
        (d.slides.flatMap (Slide.missingWarnings source ids), { d with slides := out })) ∨
    ∃ before s after e, d.slides = before ++ s :: after ∧
      (∃ filled, List.Forall₂ (Slide.Completed source ids) before filled) ∧
      s.FailsWith source ids e ∧
      d.withBibliographies describe c source ids =
        (before.flatMap (Slide.missingWarnings source ids) ++ s.missingWarnings source ids ++
          [failureWarning (e.message describe)], d) ∧
      ∀ w ∈ before.flatMap (Slide.missingWarnings source ids) ++ s.missingWarnings source ids,
        ∀ report, w ≠ failureWarning report := by
  have hempty : ids.isEmpty = false := by simpa using hids
  unfold withBibliographies
  rw [hempty, henabled, havailable]
  cases hany : d.slides.any Slide.wantsBibliography with
  | false =>
    have hwants : ∀ s ∈ d.slides, s.wantsBibliography = false := by simpa using hany
    refine .inl ⟨d.slides, List.forall₂_same.2 fun s hs => .kept (hwants s hs), ?_⟩
    rw [List.flatMap_eq_nil_iff.2 fun s hs => by rw [Slide.missingWarnings, hwants s hs]; rfl]
    rfl
  | true =>
    rcases fillBibliographies_cases source ids d.slides with
      ⟨out, hout, heq⟩ | ⟨before, s, after, e, hslides, ⟨filled, hfilled⟩, he, heq⟩
    · refine .inl ⟨out, hout.imp fun _ _ h => h.completed, ?_⟩
      rw [heq]
      rfl
    · refine .inr ⟨before, s, after, e, hslides, ⟨filled, hfilled.imp fun _ _ h => h.completed⟩, he,
        ?_, fun w hw => ?_⟩
      · rw [heq]
        rfl
      · rcases List.mem_append.1 hw with hw | hw
        · obtain ⟨s', -, hw⟩ := List.mem_flatMap.1 hw
          exact ne_failureWarning_of_mem hw
        · exact ne_failureWarning_of_mem hw

/-- A slide with a bibliography of what the deck cites. -/
def listed (sort : String) : Slide :=
  ⟨bibliographyTemplate, Entries.ofNames [("autoGenerate", .bool true), ("sort", .str sort)], none, none,
    none⟩

/-- Two bibliographies, the second one in an order that does not exist. -/
def twoListed : Deck :=
  ⟨⟨"Insects", none, none, defaultTheme, none⟩, [listed "year", listed "size"]⟩

/-- The first bibliography is not kept, but what it misses is warned of. -/
theorem withBibliographies_twoListed : twoListed.withBibliographies Fault.describe Config.default
    Bibliography.insects.source ["ants", "moths"] =
      (["Bibliography: reference not found: moths", failureWarning
        "Invalid sort 'size', must be one of ('citation-order', 'author', 'year')"], twoListed) := by
  have hids : ["ants", "moths"] ≠ [] := by simp
  have henabled : twoListed.referencesEnabled Config.default = true := rfl
  have havailable : Bibliography.insects.source.available = true := rfl
  rcases withBibliographies_cases Fault.describe hids henabled havailable with
    ⟨out, hout, -⟩ | ⟨before, s, after, e, -, -, -, heq, -⟩
  · -- the second bibliography cannot be made
    obtain ⟨t, -, ht⟩ := exists_mem_of_forall₂ hout (listed "size") (by simp [twoListed])
    cases ht with
    | kept h => cases h
    | listed _ hb => cases hb
  · have hwarnings := congrArg Prod.fst heq
    refine heq.trans (Prod.ext (hwarnings.symm.trans ?_) rfl)
    decide +kernel

end Deck

end SlidePress
