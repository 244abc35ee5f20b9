import SlidePress.Citation.Inline
import SlidePress.Proofs.Reference.Plain

/-! # References with any date

The year of a reference is looked for four levels deep in data that may hold anything, and what is
found there is taken for a number as far as it is one. Everything but an infinite number is a year, or
it is none and counts as zero (`year_of_unbounded`, `exists_year`). Whatever else a reference with
proper authors holds is written as it is, so its citation and its entry can be written exactly if no
infinite number stands at the place of the year (`CitationStyle.exists_written`). -/

namespace SlidePress

namespace Value

theorem compare_of_numeric {v w : Value} {m n : Numeric} (hv : v.numeric? = some m)
    (hw : w.numeric? = some n) : compare v w = .ok (m.compare n) := by
  have hscalar : compareScalar v w = .ok (m.compare n) := by
    unfold compareScalar
    rw [hv, hw]
  cases v with
  | list _ | tuple _ => cases hv
  | _ => simpa only [compare] using hscalar

end Value

namespace Reference

/-- A reference whose authors are mappings with texts for names, as far as they are there. -/
def Credited (r : Reference) : Prop :=
  r.field "author" = .null ∨ ∃ vs, r.field "author" = .list vs ∧
    ∀ v ∈ vs, ∃ es : Entries, v = .map es ∧ es.MaybeText "family" ∧ es.MaybeText "given"

/-! ### Years -/

/-- What a value says of a year: an integer says itself, a truth value one or zero, a finite number
the integer towards zero, and a text the integer that is written there. -/
inductive Tells : Value → Int → Prop
  | int (n : Int) : Tells (.int n) n
  | bool (b : Bool) : Tells (.bool b) (if b then 1 else 0)
  | float {x : Float} {n : Int} (h : Number.truncate? x = some n) : Tells (.float x) n
  | text {s : String} {n : Int} (h : Number.readInt 10 s.toList = some n) : Tells (.str s) n

/-- A reference with a value at the place of the year that says which. -/
def Dated (r : Reference) (year : Int) : Prop := ∃ v, r.issued? = some v ∧ Tells v year

/-- A reference with an infinite number at the place of the year. -/
def Unbounded (r : Reference) : Prop := ∃ x, r.issued? = some (.float x) ∧ x.isInf = true

/-- A value that is not an infinite number is the year that it says, or zero if it says none. -/
theorem exists_wholeNumber {v : Value} (h : ∀ x, v = .float x → x.isInf = false) :
    ∃ n, wholeNumber v = .ok n ∧ (Tells v n ∨ (∀ m, ¬ Tells v m) ∧ n = 0) := by
  cases v with
  | int n => exact ⟨n, rfl, .inl (.int n)⟩
  | bool b => exact ⟨_, rfl, .inl (.bool b)⟩
  | float x =>
    refine ⟨_, if_neg (by simp [h x rfl]), ?_⟩
    cases hx : Number.truncate? x with
    | some n => exact .inl (.float hx)
    | none => exact .inr ⟨fun m hm => by cases hm; simp_all, rfl⟩
  | str s =>
    refine ⟨_, rfl, ?_⟩
    cases hs : Number.readInt 10 s.toList with
    | some n => exact .inl (.text hs)
    | none => exact .inr ⟨fun m hm => by cases hm; simp_all, rfl⟩
  | _ => exact ⟨0, rfl, .inr ⟨fun m hm => (nomatch hm), rfl⟩⟩

variable {r : Reference}

/-- **There is a year** unless it would be infinite: the one that is told, or zero. -/
theorem exists_year (h : ¬ r.Unbounded) :
    ∃ year, r.year = .ok year ∧ (r.Dated year ∨ (∀ n, ¬ r.Dated n) ∧ year = 0) := by
  rw [year_eq]
  cases hissued : r.issued? with
  | none => exact ⟨0, rfl, .inr ⟨fun n ⟨v, hv, _⟩ => by simp [hissued] at hv, rfl⟩⟩
  | some v =>
    obtain ⟨n, hn, htells⟩ := exists_wholeNumber (v := v) fun x hx =>
      Bool.eq_false_of_not_eq_true fun hinf => h ⟨x, hx ▸ hissued, hinf⟩
    refine ⟨n, hn, htells.imp (fun htells => ⟨v, hissued, htells⟩) fun ⟨hnone, hzero⟩ =>
      ⟨fun m ⟨w, hw, htells⟩ => ?_, hzero⟩⟩
    obtain rfl := Option.some.inj (hissued.symm.trans hw)
    exact hnone m htells

theorem year_of_unbounded (h : r.Unbounded) : r.year = .error .overflow := by
  obtain ⟨x, hx, hinf⟩ := h
  rw [year_eq, hx]
  exact if_pos hinf

end Reference

namespace CitationStyle

open Reference

variable {st : CitationStyle} {limit : Value.Numeric} {r : Reference}

theorem exists_allows (hst : st.maxAuthors.numeric? = some limit) (n : Nat) :
    ∃ b, st.allows n = .ok b := by
  have hcompare : Value.compare (.int n) st.maxAuthors = .ok ((Value.Numeric.int n).compare limit) :=
    Value.compare_of_numeric rfl hst
  rw [allows, Attempt.bind_ok hcompare]
  split <;> exact ⟨_, rfl⟩

/-- Where the limit is a number, several authors can be named. -/
theorem exists_severalAuthors (hst : st.maxAuthors.numeric? = some limit) {as : List Author}
    (h : ∀ a ∈ as, Author.Plain a) (japanese : Bool) :
    ∃ names, st.severalAuthors as japanese = .ok names := by
  have htexts : (as.all fun a => a.family.isText) = true := List.all_eq_true.2 fun a ha => by
    obtain ⟨s, hs⟩ := (h a ha).family
    rw [hs]
    rfl
  obtain ⟨b, hb⟩ := exists_allows hst as.length
  rw [severalAuthors, Attempt.bind_ok hb, if_pos htexts]
  split_ifs <;> exact ⟨_, rfl⟩

theorem exists_authors (hst : st.maxAuthors.numeric? = some limit) {as : List Author}
    (has : r.authors = .ok as) (h : ∀ a ∈ as, Author.Plain a) : ∃ names, st.authors r = .ok names := by
  obtain ⟨japanese, hjapanese⟩ := exists_isJapanese h
  rw [authors, Attempt.bind_ok has, Attempt.bind_ok hjapanese]
  match as, h with
  | [], _ => exact ⟨_, rfl⟩
  | [a], _ => exact ⟨_, rfl⟩
  | a :: b :: as, h => exact exists_severalAuthors hst h japanese

/-- Where the authors can be named, only the year can keep a citation from being written. -/
theorem inline_eq {names : String} (h : st.authors r = .ok names) :
    st.inline r = r.year.map fun y => "(" ++ names ++ st.authorSep ++ toString y ++
      (r.identifier?.elim "" fun s => st.identifierSep ++ s) ++ ")" := by
  rw [inline, Attempt.bind_ok h]
  cases r.year <;> cases r.identifier? <;> rfl

/-- **What can be written about a reference.** Where the authors are mappings with texts for names, as
far as they are there, and the style's limit is a number, the authors can be named, whatever the other
fields hold. If the number at the place of the year is infinite, neither the citation nor the entry can
be written. Otherwise both can, with the year that is told there, or zero if none is. -/
theorem exists_written (hst : st.maxAuthors.numeric? = some limit) (hr : r.Credited) :
    ∃ names head japanese, st.authors r = .ok names ∧
      (r.Unbounded → st.inline r = .error .overflow ∧ r.fullEntry = .error .overflow) ∧
      (¬ r.Unbounded → ∃ year, (r.Dated year ∨ (∀ n, ¬ r.Dated n) ∧ year = 0) ∧
        st.inline r = .ok ("(" ++ names ++ st.authorSep ++ toString year ++
          (r.identifier?.elim "" fun s => st.identifierSep ++ s) ++ ")") ∧
        r.fullEntry = .ok (" ".intercalate ([head, "(" ++ toString year ++ ")."] ++
          [r.title?, r.journal? japanese, r.identifier?].filterMap id))) := by
  obtain ⟨as, has, hplain⟩ := Reference.exists_authors hr
  obtain ⟨names, hnames⟩ := exists_authors hst has hplain
  obtain ⟨head, japanese, hentry⟩ := exists_fullEntry_eq has hplain
  refine ⟨names, head, japanese, hnames, fun h => ?_, fun h => ?_⟩
  · rw [inline_eq hnames, hentry, year_of_unbounded h]
    exact ⟨rfl, rfl⟩
  · obtain ⟨year, hyear, hdated⟩ := exists_year h
    rw [inline_eq hnames, hentry, hyear]
    exact ⟨year, hdated, rfl, rfl⟩

/-- An item by one author with an infinite year. -/
def eternal : Reference :=
  ⟨Entries.ofNames [("id", .str "e"),
    ("author", .list [.map (Entries.ofNames [("family", .str "Plato")])]),
    ("issued", .map (Entries.ofNames [("date-parts", .list [.list [.float Number.infinity]])]))]⟩

/-- An item by the same author with all kinds of values in its other fields. -/
def scribbled : Reference :=
  ⟨Entries.ofNames [("id", .str "s"),
    ("author", .list [.map (Entries.ofNames [("family", .str "Plato")])]),
    ("issued", .map (Entries.ofNames [("date-parts", .list [.map []])])),
    ("title", .list [.null, .float Number.infinity]), ("PMID", .bool true)]⟩

theorem exists_written_eternal :
    default.authors eternal = .ok "Plato" ∧ default.inline eternal = .error .overflow ∧
      eternal.fullEntry = .error .overflow ∧
      default.inline scribbled = .ok "(Plato, 0; PMID: True)" := by
  have hplato : ∀ v ∈ [Value.map (Entries.ofNames [("family", .str "Plato")])],
      ∃ es : Entries, v = .map es ∧ es.MaybeText "family" ∧ es.MaybeText "given" := fun v hv => by
    obtain rfl := List.mem_singleton.1 hv
    exact ⟨_, rfl, .inr ⟨"Plato", rfl⟩, .inl rfl⟩
  have hstyle : default.maxAuthors.numeric? = some (.int 2) := rfl
  obtain ⟨names, -, -, hnames, hinfinite, -⟩ := exists_written hstyle (r := eternal)
    (.inr ⟨_, rfl, hplato⟩)
  obtain ⟨hinline, hentry⟩ := hinfinite ⟨Number.infinity, rfl, by decide⟩
  obtain ⟨names', _, _, hnames', -, hfinite⟩ := exists_written hstyle (r := scribbled)
    (.inr ⟨_, rfl, hplato⟩)
  have hundated : scribbled.issued? = none := rfl
  obtain ⟨year, hyear, hinline', -⟩ := hfinite fun ⟨x, hx, _⟩ => by simp [hundated] at hx
  obtain rfl : year = 0 := by
    rcases hyear with ⟨v, hv, -⟩ | ⟨-, hzero⟩
    · simp [hundated] at hv
    · exact hzero
  obtain rfl : "Plato" = names := Except.ok.inj hnames
  obtain rfl : "Plato" = names' := Except.ok.inj hnames'
  exact ⟨hnames, hinline, hentry, hinline'.trans rfl⟩

end CitationStyle

end SlidePress
