import SlidePress.Deck.Source
import SlidePress.Proofs.Yaml.Composing
import SlidePress.Proofs.Yaml.Faults
import SlidePress.Proofs.Yaml.Lexing

/-! # What reading a deck ends in

A deck is read, or there is a report on its text, on its file or on its data. One more end remains: a
bare fault that nobody has turned into a report. Faults escape from three places and no others
(`Escapes`, `EscapesFile`):

* a number in the text that is too large, of an escaped character or of a version;
* a scalar whose text cannot be converted to the type of its tag or is looked for without an end,
  at the first place where the document goes wrong;
* a file whose bytes are not UTF-8.

`reading_ends` puts this together, for texts and for files. Nothing bounds how deep a document may
be nested: depth alone is no fault. -/

namespace SlidePress

namespace Yaml

theorem Document.ne_malformedYaml_of_inconvertible {d : Document} {n : Node} {f : Fault}
    (h : d.Inconvertible n f) : f ≠ .malformedYaml := by
  cases h with
  | text _ _ hf =>
    intro heq
    subst heq
    cases htag : d.tagOf n <;> rw [htag] at hf <;> simp [Tag.faults] at hf
  | endless => exact Fault.noConfusion

/-- A text that is not composed is malformed or holds too large a number. -/
theorem fault_of_ofText? {s : String} {f : Fault} (h : Document.ofText? s = .error f) :
    f = .malformedYaml ∨ Overlarge s.toList f := by
  unfold Document.ofText? at h
  by_cases hrefused : refused s = true
  · rw [if_pos hrefused] at h
    cases h
    exact .inl rfl
  · rw [if_neg hrefused] at h
    rcases fault_of_ofTokens? h with hf | ⟨t, ht, hf⟩
    · exact .inl hf
    · exact fault_of_mem_tokens ht hf

theorem load_eq_error_iff {s : String} {f : Fault} : load s = .error f ↔
    Document.ofText? s = .error f ∨ ∃ d, Document.ofText? s = .ok (some d) ∧ d.data = .error f := by
  unfold load
  cases hdoc : Document.ofText? s with
  | error g =>
    constructor
    · intro h
      cases h
      exact .inl rfl
    · rintro (h | ⟨d, h, -⟩)
      · cases h
        rfl
      · cases h
  | ok o =>
    cases o with
    | none =>
      refine iff_of_false (fun h => by cases h) ?_
      rintro (h | ⟨d, h, -⟩) <;> cases h
    | some d =>
      constructor
      · intro h
        exact .inr ⟨d, rfl, h⟩
      · rintro (h | ⟨e, he, h⟩)
        · cases h
        · cases he
          exact h

end Yaml

namespace Deck

open Yaml (Document)

/-- The documented ends of reading a deck: the deck, a report on its text or file, or a report on its
data. -/
inductive Documented : Except DeckError Deck → Prop
  | deck {d : Deck} : Documented (.ok d)
  | malformed : Documented (.error .malformed)
  | unreadable {path : String} : Documented (.error (.unreadable path))
  | unfit {issues : List Issue} : Documented (.error (.unfit issues))

/-- A fault of a text that is not reported as malformed YAML. -/
inductive Escapes (s : String) : Fault → Prop
  /-- A number in the text is too large. -/
  | number {f : Fault} : Document.ofText? s = .error f → Yaml.Overlarge s.toList f → Escapes s f
  /-- The first fault of the document is that of a scalar. -/
  | scalar {d : Document} {n : Yaml.Node} {f : Fault} : Document.ofText? s = .ok (some d) →
      d.FirstFault f → d.Has n → d.Inconvertible n f → Escapes s f

theorem ofFault_eq_fault_iff {f g : Fault} :
    DeckError.ofFault g = .fault f ↔ g = f ∧ f ≠ .malformedYaml := by
  constructor
  · intro h
    cases g <;> cases h <;> exact ⟨rfl, Fault.noConfusion⟩
  · rintro ⟨rfl, hne⟩
    cases g <;> first | rfl | exact absurd rfl hne

theorem documented_check (v : Value) : Documented (check v) := by
  unfold check
  cases ofValue v with
  | ok d => exact .deck
  | error issues => exact .unfit

theorem ofText_of_load_ok {s : String} {v : Value} (h : Yaml.load s = .ok v) :
    ofText s = check v := by
  unfold ofText
  rw [h]

theorem ofText_of_load_error {s : String} {f : Fault} (h : Yaml.load s = .error f) :
    ofText s = .error (DeckError.ofFault f) := by
  unfold ofText
  rw [h]

/-- A bare fault is one of loading the text. -/
theorem ofText_eq_fault_iff_load {s : String} {f : Fault} :
    ofText s = .error (.fault f) ↔ Yaml.load s = .error f ∧ f ≠ .malformedYaml := by
  constructor
  · intro h
    cases hload : Yaml.load s with
    | ok v =>
      have hcheck : Documented (ofText s) := ofText_of_load_ok hload ▸ documented_check v
      rw [h] at hcheck
      cases hcheck
    | error g =>
      rw [ofText_of_load_error hload] at h
      obtain ⟨rfl, hne⟩ := ofFault_eq_fault_iff.1 (Except.error.inj h)
      exact ⟨rfl, hne⟩
  · rintro ⟨hload, hne⟩
    rw [ofText_of_load_error hload, ofFault_eq_fault_iff.2 ⟨rfl, hne⟩]

/-- **A text ends in a bare fault** exactly if that fault escapes from it. -/
theorem ofText_eq_fault_iff {s : String} {f : Fault} :
    ofText s = .error (.fault f) ↔ Escapes s f := by
  rw [ofText_eq_fault_iff_load, Yaml.load_eq_error_iff]
  constructor
  · rintro ⟨hload | ⟨d, hd, hdata⟩, hne⟩
    · rcases Yaml.fault_of_ofText? hload with hf | hlarge
      · exact absurd hf hne
      · exact .number hload hlarge
    · have hfirst : d.FirstFault f := Document.data_eq_error_iff.1 hdata
      have ⟨w, hw, _⟩ := hfirst
      rcases Document.exists_inconvertible hw d.has_root with hf | ⟨n, hn, hf⟩
      · exact absurd hf hne
      · exact .scalar hd hfirst hn hf
  · intro h
    cases h with
    | number hload hlarge => exact ⟨.inl hload, hlarge.ne_malformedYaml⟩
    | scalar hd hfirst _ hf =>
      have hdata := Document.data_eq_error_iff.2 hfirst
      exact ⟨.inr ⟨_, hd, hdata⟩, Document.ne_malformedYaml_of_inconvertible hf⟩

theorem documented_ofText_iff {s : String} : Documented (ofText s) ↔ ∀ f, ¬ Escapes s f := by
  constructor
  · intro h f hf
    rw [ofText_eq_fault_iff.2 hf] at h
    cases h
  · intro h
    cases hload : Yaml.load s with
    | ok v =>
      rw [ofText_of_load_ok hload]
      exact documented_check v
    | error g =>
      by_cases hg : g = .malformedYaml
      · rw [ofText_of_load_error hload, hg]
        exact .malformed
      · have hfault : ofText s = .error (.fault g) := ofText_eq_fault_iff_load.2 ⟨hload, hg⟩
        exact absurd (ofText_eq_fault_iff.1 hfault) (h g)

/-! ### Files -/

/-- A fault of what a path leads to that is not turned into a report. -/
inductive EscapesFile (b : Body) : Fault → Prop
  /-- The bytes of the file are not UTF-8. -/
  | undecodable {bs : List UInt8} : b = .bytes bs → String.fromUTF8? ⟨bs.toArray⟩ = none →
      EscapesFile b .undecodable
  /-- The fault is one of the text in the file. -/
  | text {s : String} {f : Fault} : Body.read (some b) = .ok s → Escapes s f → EscapesFile b f

theorem ofFile_of_read {path : String} {b : Body} {s : String} (h : Body.read (some b) = .ok s) :
    (textInFile path (some b) >>= ofText) = ofText s := by
  unfold textInFile
  rw [h]
  rfl

theorem ofFile_of_not_utf8 {path : String} {bs : List UInt8}
    (h : String.fromUTF8? ⟨bs.toArray⟩ = none) :
    (textInFile path (some (.bytes bs)) >>= ofText) = .error (.fault .undecodable) := by
  unfold textInFile Body.read
  dsimp only
  rw [h]
  rfl

theorem ofFile_folder (path : String) :
    (textInFile path (some .folder) >>= ofText) = .error (.unreadable path) := rfl

/-- What a path leads to is a file with a text, a file with bytes that are none, or a folder. -/
theorem read_cases (b : Body) : (∃ s, Body.read (some b) = .ok s) ∨
    (∃ bs, b = .bytes bs ∧ String.fromUTF8? ⟨bs.toArray⟩ = none) ∨ b = .folder := by
  cases b with
  | text s => exact .inl ⟨_, rfl⟩
  | folder => exact .inr (.inr rfl)
  | bytes bs =>
    cases hutf8 : String.fromUTF8? ⟨bs.toArray⟩ with
    | none => exact .inr (.inl ⟨bs, rfl, hutf8⟩)
    | some s =>
      refine .inl ⟨Body.unix s, ?_⟩
      unfold Body.read
      dsimp only
      rw [hutf8]

theorem ofFile_eq_fault_iff {path : String} {b : Body} {f : Fault} :
    (textInFile path (some b) >>= ofText) = .error (.fault f) ↔ EscapesFile b f := by
  constructor
  · intro h
    rcases read_cases b with ⟨s, hs⟩ | ⟨bs, rfl, hbs⟩ | rfl
    · rw [ofFile_of_read hs, ofText_eq_fault_iff] at h
      exact .text hs h
    · rw [ofFile_of_not_utf8 hbs] at h
      cases h
      exact .undecodable rfl hbs
    · rw [ofFile_folder] at h
      cases h
  · intro h
    cases h with
    | undecodable hb hbs =>
      subst hb
      exact ofFile_of_not_utf8 hbs
    | text hs h => rw [ofFile_of_read hs, ofText_eq_fault_iff.2 h]

theorem documented_ofFile_iff {path : String} {b : Body} :
    Documented (textInFile path (some b) >>= ofText) ↔ ∀ f, ¬ EscapesFile b f := by
  constructor
  · intro h f hf
    rw [ofFile_eq_fault_iff.2 hf] at h
    cases h
  · intro h
    rcases read_cases b with ⟨s, hs⟩ | ⟨bs, rfl, hbs⟩ | rfl
    · rw [ofFile_of_read hs, documented_ofText_iff]
      exact fun f hf => h f (.text hs hf)
    · exact absurd (.undecodable rfl hbs) (h _)
    · rw [ofFile_folder]
      exact .unreadable

/-- **What reading a deck ends in**, from any text and from whatever a path leads to: one of the
documented ends, exactly if no fault escapes from the text or the file; and else in the very fault
that escapes. -/
theorem reading_ends (s path : String) (b : Body) :
    (Documented (ofText s) ↔ ∀ f, ¬ Escapes s f) ∧
    (∀ f, ofText s = .error (.fault f) ↔ Escapes s f) ∧
    (Documented (textInFile path (some b) >>= ofText) ↔ ∀ f, ¬ EscapesFile b f) ∧
    ∀ f, (textInFile path (some b) >>= ofText) = .error (.fault f) ↔ EscapesFile b f :=
  ⟨documented_ofText_iff, fun _ => ofText_eq_fault_iff, documented_ofFile_iff,
    fun _ => ofFile_eq_fault_iff⟩

/-- A date that is not in the calendar escapes. -/
example : (match ofText "meta: \x7btitle: T, date: 2024-13-45\x7d\n" with
    | .ok _ => none
    | .error e => some e) = some (.fault .badValue) := by
  decide +kernel

end Deck

end SlidePress
