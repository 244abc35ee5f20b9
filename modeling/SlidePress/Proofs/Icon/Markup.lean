import SlidePress.Icon.Svg
import SlidePress.Proofs.Text.Occurrence
import SlidePress.Proofs.Text.Split

/-! # SVG markup by its parts

The markup of an icon is a text whose root tag begins with `<svg`: in front of it there may be
instructions, the type of the document and comments, in it stand attributes with values in double
quotes, and what follows it is left open. `Markup` holds the parts of such a text, and
`Markup.text` is the text. A text has its parts in one way only (`Markup.text_injective`), so what
is said of the parts is said of the text. -/

namespace SlidePress.Svg

open Text (isBlank)

/-! ### Runs of characters -/

/-- What holds of the characters of a text is checked one by one. -/
theorem forall_mem_of_all {p : Char → Prop} [DecidablePred p] {cs : List Char}
    (h : cs.all (fun c => decide (p c)) = true) : ∀ c ∈ cs, p c := by
  simpa using h

theorem forall_ne_of_notMem {c : Char} {u : List Char} (h : c ∉ u) : ∀ d ∈ u, (d != c) = true := by
  intro d hd
  simpa using fun hdc : d = c => h (hdc ▸ hd)

/-- A run of characters of one kind and what follows it are told apart in one way. -/
theorem eq_of_runs {p : Char → Bool} {u u' v v' : List Char} (hu : ∀ c ∈ u, p c = true)
    (hu' : ∀ c ∈ u', p c = true) (hv : ∀ c ∈ v.head?, p c = false) (hv' : ∀ c ∈ v'.head?, p c = false)
    (h : u ++ v = u' ++ v') : u = u' ∧ v = v' := by
  obtain ⟨htake, hdrop⟩ := Text.takeWhile_append_of_head hu hv
  obtain ⟨htake', hdrop'⟩ := Text.takeWhile_append_of_head hu' hv'
  rw [h] at htake hdrop
  exact ⟨htake.symm.trans htake', hdrop.symm.trans hdrop'⟩

/-- What stands before the first of some character and what stands behind it are told apart in one
way. -/
theorem eq_of_append_cons {c : Char} {u u' v v' : List Char} (hu : c ∉ u) (hu' : c ∉ u')
    (h : u ++ c :: v = u' ++ c :: v') : u = u' ∧ v = v' := by
  obtain ⟨rfl, hcons⟩ := eq_of_runs (p := (· != c)) (forall_ne_of_notMem hu) (forall_ne_of_notMem hu')
    (by simp) (by simp) h
  exact ⟨rfl, (List.cons.inj hcons).2⟩

/-! ### Attributes -/

/-- A character that may stand in the name of an attribute. -/
def isNameChar (c : Char) : Bool :=
  !isBlank c && c != '=' && c != '"' && c != '<' && c != '>' && c != '/'

theorem isBlank_of_isNameChar {c : Char} (h : isNameChar c = true) : isBlank c = false := by
  simp only [isNameChar, Bool.and_eq_true, Bool.not_eq_true'] at h
  exact h.1.1.1.1.1

theorem isBlank_of_mem_nil : ∀ c ∈ ([] : List Char), isBlank c = true := List.forall_mem_nil _

theorem isNameChar_of_isBlank {c : Char} (h : isBlank c = true) : isNameChar c = false := by
  simp [isNameChar, h]

/-- An attribute as it is written: blanks, its name, an equals sign with blanks around it if there
are any, and its value in double quotes. -/
structure Attribute where
  gap : List Char
  name : List Char
  padLeft : List Char
  padRight : List Char
  value : List Char
  gap_ne_nil : gap ≠ []
  isBlank_gap : ∀ c ∈ gap, isBlank c = true
  name_ne_nil : name ≠ []
  isNameChar_name : ∀ c ∈ name, isNameChar c = true
  isBlank_padLeft : ∀ c ∈ padLeft, isBlank c = true
  isBlank_padRight : ∀ c ∈ padRight, isBlank c = true
  quote_notMem_value : '"' ∉ value

namespace Attribute

/-- The text of an attribute. -/
def text (a : Attribute) : List Char :=
  a.gap ++ (a.name ++ (a.padLeft ++ '=' :: (a.padRight ++ '"' :: (a.value ++ ['"']))))

variable {a b : Attribute} {x y : List Char}

theorem text_append (a : Attribute) (y : List Char) : a.text ++ y =
    a.gap ++ (a.name ++ (a.padLeft ++ '=' :: (a.padRight ++ '"' :: (a.value ++ '"' :: y)))) := by
  simp [text]

theorem exists_name_eq_cons (a : Attribute) :
    ∃ c r, a.name = c :: r ∧ isNameChar c = true := by
  obtain ⟨c, r, hname⟩ := List.exists_cons_of_ne_nil a.name_ne_nil
  exact ⟨c, r, hname, a.isNameChar_name c (by simp [hname])⟩

theorem exists_text_eq_cons (a : Attribute) : ∃ c r, a.text = c :: r ∧ isBlank c = true := by
  obtain ⟨c, r, hgap⟩ := List.exists_cons_of_ne_nil a.gap_ne_nil
  exact ⟨c, _, by rw [text, hgap]; rfl, a.isBlank_gap c (by simp [hgap])⟩

/-- What stands behind a gap does not begin with a blank. -/
theorem isBlank_head?_name (a : Attribute) : ∀ c ∈ (a.name ++ y).head?, isBlank c = false := by
  obtain ⟨c, r, hname, hc⟩ := a.exists_name_eq_cons
  simpa [hname] using isBlank_of_isNameChar hc

/-- What stands behind a name is no character of it. -/
theorem isNameChar_head?_padLeft (a : Attribute) :
    ∀ c ∈ (a.padLeft ++ '=' :: y).head?, isNameChar c = false := by
  cases hpad : a.padLeft with
  | nil => simp [isNameChar]
  | cons c r =>
    simpa using isNameChar_of_isBlank (a.isBlank_padLeft c (by simp [hpad]))

/-- **An attribute is read in one way**, whatever follows it. -/
theorem eq_of_text_append (h : a.text ++ x = b.text ++ y) : a = b ∧ x = y := by
  rw [text_append, text_append] at h
  obtain ⟨hgap, h⟩ := eq_of_runs a.isBlank_gap b.isBlank_gap a.isBlank_head?_name
    b.isBlank_head?_name h
  obtain ⟨hname, h⟩ := eq_of_runs a.isNameChar_name b.isNameChar_name a.isNameChar_head?_padLeft
    b.isNameChar_head?_padLeft h
  obtain ⟨hleft, h⟩ := eq_of_runs a.isBlank_padLeft b.isBlank_padLeft
    (by simp [show isBlank '=' = false by decide]) (by simp [show isBlank '=' = false by decide]) h
  obtain ⟨hright, h⟩ := eq_of_runs a.isBlank_padRight b.isBlank_padRight
    (by simp [show isBlank '"' = false by decide]) (by simp [show isBlank '"' = false by decide])
    (List.cons.inj h).2
  obtain ⟨hvalue, rfl⟩ := eq_of_append_cons a.quote_notMem_value b.quote_notMem_value
    (List.cons.inj h).2
  refine ⟨?_, rfl⟩
  cases a
  cases b
  simp only [mk.injEq]
  exact ⟨hgap, hname, hleft, hright, hvalue⟩

end Attribute

/-! ### In front of the root tag -/

/-- What may stand in front of the root tag. -/
inductive LeadKind where
  /-- An instruction, as the declaration at the beginning of a file is one. -/
  | instruction
  /-- The type of the document. -/
  | documentType
  | comment
  deriving DecidableEq

/-- What follows the type of a document. Quoted text and what is in brackets is passed over; `stop`
is the character up to which it goes. -/
def afterType (stop : Option Char) : List Char → Option (List Char)
  | [] => none
  | c :: r =>
    match stop with
    | some d => afterType (if c = d then none else some d) r
    | none =>
      if c = '>' then some r
      else afterType (if c = '"' ∨ c = '\'' then some c else if c = '[' then some ']' else none) r

namespace LeadKind

/-- How it begins. -/
def opening : LeadKind → List Char
  | instruction => ['<', '?']
  | documentType => ['<', '!']
  | comment => ['<', '!', '-', '-']

/-- How it ends. -/
def closing : LeadKind → List Char
  | instruction => ['?', '>']
  | documentType => ['>']
  | comment => ['-', '-', '>']

/-- What follows it, where its beginning has been read. -/
def after : LeadKind → List Char → Option (List Char)
  | instruction, cs => (Text.splitAt? ['?', '>'] cs).map Prod.snd
  | documentType, cs => if cs.head? = some '-' then none else afterType none cs
  | comment, cs => (Text.splitAt? ['-', '-', '>'] cs).map Prod.snd

/-- What a text begins with. -/
def ofText : List Char → LeadKind
  | _ :: '?' :: _ => instruction
  | _ :: _ :: '-' :: _ => comment
  | _ => documentType

end LeadKind

/-- Something in front of the root tag, with the blanks behind it. It ends where it is closed
first. -/
structure Lead where
  kind : LeadKind
  body : List Char
  gap : List Char
  after_body : kind.after (body ++ kind.closing) = some []
  isBlank_gap : ∀ c ∈ gap, isBlank c = true

theorem afterType_append {rest : List Char} (y : List Char) :
    ∀ {cs : List Char} {stop : Option Char}, afterType stop cs = some rest →
      afterType stop (cs ++ y) = some (rest ++ y)
  | c :: r, some d, h => by
    rw [List.cons_append, afterType]
    exact afterType_append y (by simpa only [afterType] using h)
  | c :: r, none, h => by
    rw [List.cons_append, afterType]
    rw [afterType] at h
    by_cases hend : c = '>'
    · rw [if_pos hend] at h ⊢
      cases h
      rfl
    · rw [if_neg hend] at h ⊢
      exact afterType_append y h

namespace LeadKind

/-- How something ends does not depend on what follows. -/
theorem after_append (y : List Char) {rest : List Char} :
    ∀ {k : LeadKind} {cs : List Char}, k.after cs = some rest → k.after (cs ++ y) = some (rest ++ y)
  | instruction, cs, h => by
    obtain ⟨s, hs, rfl⟩ := Option.map_eq_some_iff.1 h
    exact Option.map_eq_some_iff.2 ⟨_, Text.splitAt?_append (by decide) y hs, rfl⟩
  | comment, cs, h => by
    obtain ⟨s, hs, rfl⟩ := Option.map_eq_some_iff.1 h
    exact Option.map_eq_some_iff.2 ⟨_, Text.splitAt?_append (by decide) y hs, rfl⟩
  | documentType, cs, h => by
    rw [after] at h ⊢
    cases cs with
    | nil => cases h
    | cons c cs =>
      rw [List.head?_cons] at h
      rw [List.cons_append, List.head?_cons, ← List.cons_append]
      split_ifs at h ⊢
      exact afterType_append y h

end LeadKind

namespace Lead

/-- Its text. -/
def text (l : Lead) : List Char := l.kind.opening ++ (l.body ++ (l.kind.closing ++ l.gap))

variable {k l : Lead} {x y : List Char}

theorem text_append (l : Lead) (y : List Char) :
    l.text ++ y = l.kind.opening ++ (l.body ++ (l.kind.closing ++ (l.gap ++ y))) := by
  simp [text]

theorem exists_text_append_eq (l : Lead) (y : List Char) :
    ∃ c r, l.text ++ y = '<' :: c :: r ∧ c ≠ 's' := by
  rw [text_append]
  cases l.kind <;> simp [LeadKind.opening]

/-- What is closed first by its own end is closed there in every text. -/
theorem after_append (l : Lead) (y : List Char) :
    l.kind.after (l.body ++ (l.kind.closing ++ (l.gap ++ y))) = some (l.gap ++ y) := by
  rw [← List.append_assoc]
  exact LeadKind.after_append (l.gap ++ y) l.after_body

theorem ofText_text_append (l : Lead) (y : List Char) : LeadKind.ofText (l.text ++ y) = l.kind := by
  have hafter := l.after_append y
  rw [text_append]
  cases hkind : l.kind with
  | instruction => rfl
  | comment => rfl
  | documentType =>
    rw [hkind, LeadKind.after] at hafter
    split_ifs at hafter with hdash
    generalize l.body ++ (LeadKind.documentType.closing ++ (l.gap ++ y)) = cs at hdash
    cases cs with
    | nil => rfl
    | cons c cs =>
      have hc : c ≠ '-' := fun hc => hdash (by rw [hc]; rfl)
      simp [LeadKind.opening, LeadKind.ofText, hc]

/-- **What stands in front of the root tag** is read in one way, up to the next tag. -/
theorem eq_of_text_append (hx : ∀ c ∈ x.head?, isBlank c = false)
    (hy : ∀ c ∈ y.head?, isBlank c = false) (h : k.text ++ x = l.text ++ y) : k = l ∧ x = y := by
  have hkind : k.kind = l.kind := by
    rw [← ofText_text_append k x, h, ofText_text_append]
  have hk := k.after_append x
  have hl := l.after_append y
  rw [text_append, text_append, hkind, List.append_cancel_left_eq] at h
  rw [hkind, h, hl, Option.some.injEq] at hk
  obtain ⟨hgap, hxy⟩ := eq_of_runs l.isBlank_gap k.isBlank_gap hy hx hk
  rw [← List.append_assoc, ← List.append_assoc l.body, hk] at h
  have hbody := List.append_cancel_right (List.append_cancel_right h)
  refine ⟨?_, hxy.symm⟩
  cases k
  cases l
  simp only [mk.injEq]
  exact ⟨hkind, hbody, hgap.symm⟩

end Lead

/-! ### Markup -/

/-- The markup of an icon: what stands in front of its root tag, the attributes of the tag, its end
with a slash if it has no content, and what follows. -/
structure Markup where
  front : List Lead
  attributes : List Attribute
  space : List Char
  slash : Bool
  rest : List Char
  isBlank_space : ∀ c ∈ space, isBlank c = true

/-- The texts of attributes, one behind the other. -/
def attributesText (as : List Attribute) : List Char := as.flatMap Attribute.text

@[simp] theorem attributesText_nil : attributesText [] = [] := rfl

@[simp] theorem attributesText_cons (a : Attribute) (as : List Attribute) :
    attributesText (a :: as) = a.text ++ attributesText as := List.flatMap_cons

/-- The text of what stands in front of the root tag. -/
def leadsText (ls : List Lead) : List Char := ls.flatMap Lead.text

@[simp] theorem leadsText_nil : leadsText [] = [] := rfl

@[simp] theorem leadsText_cons (l : Lead) (ls : List Lead) :
    leadsText (l :: ls) = l.text ++ leadsText ls := List.flatMap_cons

namespace Markup

variable {m m' : Markup}

/-- The end of a root tag: blanks, perhaps a slash, and what closes it. -/
def close (m : Markup) : List Char := m.space ++ if m.slash then ['/', '>'] else ['>']

/-- The end of the root tag and what follows it. -/
def ending (m : Markup) : List Char := m.close ++ m.rest

/-- The text of markup. -/
def text (m : Markup) : List Char :=
  leadsText m.front ++ (rootTag ++ (attributesText m.attributes ++ m.ending))

/-- An end begins with blanks and a character that begins no name. -/
theorem exists_ending_eq (m : Markup) :
    ∃ c r, m.ending = m.space ++ c :: r ∧ isNameChar c = false ∧ isBlank c = false := by
  unfold ending close
  cases m.slash with
  | false => exact ⟨'>', m.rest, by simp, by decide, by decide⟩
  | true => exact ⟨'/', '>' :: m.rest, by simp, by decide, by decide⟩

theorem eq_of_ending_eq (h : m.ending = m'.ending) :
    m.space = m'.space ∧ m.slash = m'.slash ∧ m.rest = m'.rest := by
  have hhead (s : Bool) (r : List Char) :
      ∀ c ∈ ((if s then ['/', '>'] else ['>']) ++ r).head?, isBlank c = false := by
    cases s <;> simp <;> decide
  simp only [ending, close, List.append_assoc] at h
  obtain ⟨hspace, hclose⟩ := eq_of_runs m.isBlank_space m'.isBlank_space (hhead _ _) (hhead _ _) h
  cases hslash : m.slash <;> cases hslash' : m'.slash <;> simp [hslash, hslash'] at hclose ⊢ <;>
    exact ⟨hspace, hclose⟩

/-- An attribute does not begin like the end of a tag. -/
theorem text_append_ne_ending (a : Attribute) (y : List Char) (m : Markup) :
    a.text ++ y ≠ m.ending := fun h => by
  obtain ⟨c, r, hending, hname, hblank⟩ := m.exists_ending_eq
  obtain ⟨d, t, hd, hchar⟩ := a.exists_name_eq_cons
  rw [hending, Attribute.text_append] at h
  obtain ⟨-, hcons⟩ := eq_of_runs a.isBlank_gap m.isBlank_space a.isBlank_head?_name
    (by simpa using hblank) h
  rw [hd] at hcons
  rw [(List.cons.inj hcons).1, hname] at hchar
  cases hchar

theorem eq_of_attributesText_append :
    ∀ {as bs : List Attribute}, attributesText as ++ m.ending = attributesText bs ++ m'.ending →
      as = bs ∧ m.ending = m'.ending
  | [], [], h => ⟨rfl, h⟩
  | [], b :: bs, h => by
    rw [attributesText_cons, List.append_assoc] at h
    exact absurd h.symm (text_append_ne_ending b _ m)
  | a :: as, [], h => by
    rw [attributesText_cons, List.append_assoc] at h
    exact absurd h (text_append_ne_ending a _ m')
  | a :: as, b :: bs, h => by
    rw [attributesText_cons, attributesText_cons, List.append_assoc, List.append_assoc] at h
    obtain ⟨rfl, hrest⟩ := Attribute.eq_of_text_append h
    obtain ⟨rfl, hending⟩ := eq_of_attributesText_append hrest
    exact ⟨rfl, hending⟩

/-- What follows something in front of the root tag begins with a tag. -/
theorem isBlank_head?_leadsText (ls : List Lead) (y : List Char) :
    ∀ c ∈ (leadsText ls ++ (rootTag ++ y)).head?, isBlank c = false := by
  have hhead : (leadsText ls ++ (rootTag ++ y)).head? = some '<' := by
    cases ls with
    | nil => rfl
    | cons l ls =>
      obtain ⟨c, r, htext, -⟩ := l.exists_text_append_eq (leadsText ls ++ (rootTag ++ y))
      rw [leadsText_cons, List.append_assoc, htext]
      rfl
  rw [hhead]
  rintro c ⟨⟩
  decide

/-- The root tag is not what stands in front of it. -/
theorem text_append_ne_rootTag (l : Lead) (x y : List Char) : l.text ++ x ≠ rootTag ++ y := fun h => by
  obtain ⟨c, r, htext, hc⟩ := l.exists_text_append_eq x
  rw [htext] at h
  exact hc (List.cons.inj (List.cons.inj h).2).1

theorem eq_of_leadsText_append {x y : List Char} :
    ∀ {ks ls : List Lead}, leadsText ks ++ (rootTag ++ x) = leadsText ls ++ (rootTag ++ y) →
      ks = ls ∧ x = y
  | [], [], h => ⟨rfl, by simpa using h⟩
  | [], l :: ls, h => by
    rw [leadsText_cons, List.append_assoc] at h
    exact absurd h.symm (text_append_ne_rootTag l _ x)
  | k :: ks, [], h => by
    rw [leadsText_cons, List.append_assoc] at h
    exact absurd h (text_append_ne_rootTag k _ y)
  | k :: ks, l :: ls, h => by
    rw [leadsText_cons, leadsText_cons, List.append_assoc, List.append_assoc] at h
    obtain ⟨rfl, hrest⟩ := Lead.eq_of_text_append (isBlank_head?_leadsText ks x)
      (isBlank_head?_leadsText ls y) h
    obtain ⟨rfl, hxy⟩ := eq_of_leadsText_append hrest
    exact ⟨rfl, hxy⟩

/-- **A text has its parts in one way.** -/
theorem text_injective : Function.Injective text := fun m m' h => by
  obtain ⟨hfront, h⟩ := eq_of_leadsText_append h
  obtain ⟨hattributes, h⟩ := eq_of_attributesText_append h
  obtain ⟨hspace, hslash, hrest⟩ := eq_of_ending_eq h
  cases m
  cases m'
  simp only [mk.injEq]
  exact ⟨hfront, hattributes, hspace, hslash, hrest⟩

end Markup

end SlidePress.Svg
