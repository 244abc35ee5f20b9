import Mathlib.Algebra.Group.Nat.Defs
import Mathlib.Data.List.Infix
import SlidePress.Yaml.Token

/-! # Faults on the way from a text to its tokens

The lexer takes a text apart from the front: the places it comes to are ends of the text
(`Cursor.Within`). Where it stops, it takes the text for malformed, with two exceptions. Both are
numbers that stand in the text and are too large (`Overlarge`): the number of a character behind
`\U`, and the number of a version. Each function that reads something yields a place within the
text or one of these faults (`Yields`), and so does a step of the lexer.

* `Lexer.Clean.step`: one token is read within the text, or the text is at fault.
* `fault_of_mem_tokens`: where a failure among the tokens comes from. -/

namespace SlidePress.Yaml

/-! ### Numbers that are too large -/

/-- A number in a text that is too large for what it stands for. -/
inductive Overlarge (cs : List Char) : Fault → Prop
  /-- The number of a character is none of a character. -/
  | character {digits : List Char} {n : Nat} : '\\' :: 'U' :: digits <:+: cs → digits.length = 8 →
      hexNumber? digits = some n → 0x110000 ≤ n → n < 0x80000000 → Overlarge cs .badValue
  /-- The number of a character does not even fit into a word. -/
  | word {digits : List Char} {n : Nat} : '\\' :: 'U' :: digits <:+: cs → digits.length = 8 →
      hexNumber? digits = some n → 0x80000000 ≤ n → Overlarge cs .overflow
  /-- The number of a version has too many digits. -/
  | version {digits : List Char} : '%' :: "YAML".toList <:+: cs → digits <:+: cs →
      digits.all Char.isDigit = true → Number.digitLimit < digits.length → Overlarge cs .badValue

theorem Overlarge.ne_malformedYaml {cs : List Char} {f : Fault} (h : Overlarge cs f) :
    f ≠ .malformedYaml := by
  cases h <;> exact Fault.noConfusion

/-- A result that has a property, or a failure that is the text's. -/
def Yields {α : Type} (cs : List Char) (P : α → Prop) : Attempt α → Prop
  | .ok a => P a
  | .error f => f = .malformedYaml ∨ Overlarge cs f

namespace Yields

variable {α β : Type} {cs : List Char} {P : α → Prop} {Q : β → Prop}

theorem ok {a : α} (h : P a) : Yields cs P (.ok a) := h

theorem malformed : Yields cs P (.error .malformedYaml : Attempt α) := .inl rfl

theorem bind {r : Attempt α} {g : α → Attempt β} (hr : Yields cs P r)
    (hg : ∀ a, P a → Yields cs Q (g a)) : Yields cs Q (r >>= g) := by
  cases r with
  | ok a => exact hg a hr
  | error f => exact hr

theorem ite {c : Prop} [Decidable c] {r s : Attempt α} (hr : c → Yields cs P r)
    (hs : ¬ c → Yields cs P s) : Yields cs P (if c then r else s) := by
  by_cases h : c
  · rw [if_pos h]
    exact hr h
  · rw [if_neg h]
    exact hs h

end Yields

/-! ### Places -/

namespace Cursor

variable {cs : List Char} {c d : Cursor}

/-- The rest of the text at the cursor is an end of the text. -/
def Within (cs : List Char) (c : Cursor) : Prop := c.rest <:+ cs

theorem Within.next (h : c.Within cs) : c.next.Within cs := by
  unfold Within
  rw [rest_next]
  exact (List.tail_suffix _).trans h

theorem Within.skip (h : c.Within cs) (n : Nat) : (c.skip n).Within cs := by
  induction n generalizing c with
  | zero => exact h
  | succ n ih => exact ih h.next

theorem Within.pass (h : c.Within cs) (p : Char → Bool) : (c.pass p).Within cs := h.skip _

theorem Within.passBlanks (h : c.Within cs) : c.passBlanks.Within cs := h.pass _

theorem Within.lineBreak {a : Char} (h : c.Within cs) (hd : c.lineBreak? = some (a, d)) :
    d.Within cs := by
  unfold lineBreak? at hd
  split at hd
  · cases hd
    exact h.next.next
  · split at hd
    · cases hd
      exact h.next
    · split at hd
      · cases hd
        exact h.next
      · cases hd
  · cases hd

theorem Within.passComment (h : c.Within cs) : c.passComment.Within cs := by
  unfold Cursor.passComment
  dsimp only
  split
  · exact h.passBlanks.pass _
  · exact h.passBlanks

theorem Within.passLine (h : c.Within cs) (hd : c.passLine? = some d) : d.Within cs := by
  unfold passLine? at hd
  dsimp only at hd
  split at hd
  · split at hd
    · rename_i hbreak
      cases hd
      exact h.passComment.lineBreak hbreak
    · cases hd
      exact h.passComment
  · cases hd

/-- A character other than the one behind the text is one of the text. -/
theorem rest_eq_cons (h : c.peek ≠ '\x00') : c.rest = c.peek :: c.next.rest := by
  rw [rest_next]
  unfold peek at h ⊢
  cases hrest : c.rest with
  | nil =>
    rw [hrest] at h
    exact absurd rfl h
  | cons a r => rfl

/-- A run of characters stands in the text. -/
theorem Within.run_isInfix (h : c.Within cs) (p : Char → Bool) : c.run p <:+: cs :=
  (List.takeWhile_prefix p).isInfix.trans h.isInfix

end Cursor

open Cursor (Within)

/-! ### Scalars -/

section

variable {cs : List Char} {c : Cursor}

theorem within_plainBreaks (n : Nat) (got : List Char) (h : c.Within cs) :
    (plainBreaks n got c).2.Within cs := by
  induction n generalizing got c with
  | zero => exact h
  | succ n ih =>
    rw [plainBreaks]
    split
    · exact ih got h.next
    · split
      · rename_i hbreak
        split
        · exact h.lineBreak hbreak
        · exact ih _ (h.lineBreak hbreak)
      · exact h

theorem within_plainSpace (h : c.Within cs) : (plainSpace c).2.2.Within cs := by
  unfold plainSpace
  dsimp only
  split
  · exact h.passBlanks
  · rename_i d hbreak
    have hd : d.Within cs := h.passBlanks.lineBreak hbreak
    split
    · exact hd
    · have hbreaks := within_plainBreaks (d.rest.length + 1) [] hd
      split
      · rename_i heq
        rw [heq] at hbreaks
        exact hbreaks
      · rename_i heq
        rw [heq] at hbreaks
        exact hbreaks

theorem within_plainWords (flow : Bool) (indent : Int) (n : Nat) (got space : List Char)
    (broken : Bool) (h : c.Within cs) :
    (plainWords flow indent n got space broken c).2.2.Within cs := by
  induction n generalizing got space broken c with
  | zero => exact h
  | succ n ih =>
    rw [plainWords]
    split
    · exact h
    · dsimp only
      split
      · exact h
      · have hspace : (plainSpace (c.skip (plainWord flow c.rest).length)).2.2.Within cs :=
          within_plainSpace (h.skip _)
        split
        · exact hspace
        · exact ih _ _ _ hspace

theorem within_plain (flow : Bool) (indent : Int) (h : c.Within cs) :
    (plain flow indent c).2.2.Within cs := within_plainWords flow indent _ [] [] false h

theorem yields_quotedBreaks (n : Nat) (got : List Char) (h : c.Within cs) :
    Yields cs (fun r => r.2.Within cs) (quotedBreaks n got c) := by
  induction n generalizing got c with
  | zero => exact .ok h
  | succ n ih =>
    rw [quotedBreaks]
    refine .ite (fun _ => .malformed) fun _ => ?_
    dsimp only
    split
    · rename_i hbreak
      exact ih _ ((h.pass _).lineBreak hbreak)
    · exact .ok (h.pass _)

theorem hexValue?_lt {a : Char} {n : Nat} (h : Json.hexValue? a = some n) : n < 16 := by
  have hle : ∀ {b : Char}, a ≤ b → a.toNat ≤ b.toNat := fun h => h
  unfold Json.hexValue? at h
  split at h
  · rename_i hdigit
    have h9 : a.toNat ≤ 57 := hle hdigit.2
    cases h
    omega
  · split at h
    · rename_i hlower
      have hf : a.toNat ≤ 102 := hle hlower.2
      cases h
      omega
    · split at h
      · rename_i hupper
        have hf : a.toNat ≤ 70 := hle hupper.2
        cases h
        omega
      · cases h

theorem lt_of_foldlM_hexValue? {digits : List Char} {m n : Nat}
    (h : digits.foldlM (fun n c => (Json.hexValue? c).map fun d => n * 16 + d) m = some n) :
    n < (m + 1) * 16 ^ digits.length := by
  induction digits generalizing m with
  | nil =>
    cases h
    simp
  | cons a digits ih =>
    rw [List.foldlM_cons] at h
    obtain ⟨k, hk, h⟩ := Option.bind_eq_some_iff.1 h
    obtain ⟨d, hd, rfl⟩ := Option.map_eq_some_iff.1 hk
    have hd16 : d < 16 := hexValue?_lt hd
    calc n < (m * 16 + d + 1) * 16 ^ digits.length := ih h
      _ ≤ ((m + 1) * 16) * 16 ^ digits.length := Nat.mul_le_mul_right _ (by omega)
      _ = (m + 1) * 16 ^ (a :: digits).length := by
        rw [List.length_cons, Nat.pow_succ', Nat.mul_assoc]

theorem hexNumber?_lt {digits : List Char} {n : Nat} (h : hexNumber? digits = some n) :
    n < 16 ^ digits.length := by
  have hbound : n < (0 + 1) * 16 ^ digits.length := lt_of_foldlM_hexValue? h
  omega

/-- **An escape** fails only if it is malformed or stands for too large a number. -/
theorem yields_escape (h : '\\' :: c.rest <:+ cs) :
    Yields cs (fun r => r.2.Within cs) (escape? c) := by
  have hc : c.Within cs := (List.suffix_cons _ _).trans h
  unfold escape?
  split
  · exact .ok hc.next
  · split
    · rename_i width hwidth
      dsimp only
      refine .ite (fun _ => .malformed) fun hlength => ?_
      cases hn : hexNumber? (c.next.rest.take width) with
      | none => exact .malformed
      | some n =>
        have hshort : (c.next.rest.take width).length = width := by
          have hle := List.length_take_le width c.next.rest
          omega
        have hbound : n < 16 ^ width := hshort ▸ hexNumber?_lt hn
        refine Yields.bind (P := fun _ => True) ?_ fun a _ => .ok (hc.next.skip width)
        unfold numberedChar
        refine .ite (fun _ => .ok trivial) fun hlarge => ?_
        -- two or four digits are no number that is too large
        have height : c.peek = 'U' ∧ width = 8 := by
          obtain ⟨front, back, hwidths, -⟩ := List.lookup_eq_some_iff.1 hwidth
          have hmem : (c.peek, width) ∈ escapeWidths := by
            rw [hwidths]
            exact List.mem_append_right _ List.mem_cons_self
          simp only [escapeWidths, List.mem_cons, Prod.mk.injEq, List.not_mem_nil, or_false] at hmem
          rcases hmem with ⟨-, rfl⟩ | ⟨-, rfl⟩ | hU
          · omega
          · omega
          · exact hU
        obtain ⟨hU, rfl⟩ := height
        have hinfix : '\\' :: 'U' :: c.next.rest.take 8 <:+: cs := by
          have hrest : c.rest = 'U' :: c.next.rest := by
            rw [Cursor.rest_eq_cons (by rw [hU]; decide), hU]
          rw [hrest] at h
          have htake : '\\' :: 'U' :: c.next.rest.take 8 <+: '\\' :: 'U' :: c.next.rest :=
            (List.prefix_cons_inj _).2 ((List.prefix_cons_inj _).2 (List.take_prefix 8 _))
          exact htake.isInfix.trans h.isInfix
        refine .ite (fun hword => .inr ?_) fun hword => .inr ?_
        · exact .character hinfix hshort hn (by omega) hword
        · exact .word hinfix hshort hn (by omega)
    · split
      · rename_i hbreak
        exact yields_quotedBreaks _ [] (hc.lineBreak hbreak)
      · exact .malformed

theorem yields_quotedSpace (h : c.Within cs) :
    Yields cs (fun r => r.2.Within cs) (quotedSpace c) := by
  unfold quotedSpace
  dsimp only
  refine .ite (fun _ => .malformed) fun _ => ?_
  split
  · exact .ok (h.pass _)
  · rename_i hbreak
    exact (yields_quotedBreaks _ [] ((h.pass _).lineBreak hbreak)).bind fun r hr => .ok hr

theorem yields_quotedRest (quote : Char) (n : Nat) (got : List Char) (h : c.Within cs) :
    Yields cs (fun r => r.2.Within cs) (quotedRest quote n got c) := by
  induction n generalizing got c with
  | zero => exact .malformed
  | succ n ih =>
    rw [quotedRest]
    dsimp only
    refine .ite (fun _ => .ite (fun _ => ih _ (h.skip 2)) fun _ => .ok h.next) fun _ => ?_
    refine .ite (fun hquote => ?_) fun _ => .ite (fun _ => ?_) fun _ => ih _ h.next
    · have hpeek : c.peek = '\\' := by
        simp only [Bool.and_eq_true, beq_iff_eq] at hquote
        exact hquote.2
      have hrest : c.rest = '\\' :: c.next.rest := by
        rw [Cursor.rest_eq_cons (by rw [hpeek]; decide), hpeek]
      have hescape : '\\' :: c.next.rest <:+ cs := hrest ▸ h
      exact (yields_escape hescape).bind fun r hr => ih _ hr
    · exact (yields_quotedSpace h).bind fun r hr => ih _ hr

theorem yields_quoted (h : c.Within cs) : Yields cs (fun r => r.2.Within cs) (quoted? c) :=
  yields_quotedRest _ _ [] h.next

theorem yields_widthDigit (h : c.Within cs) : Yields cs (fun r => r.2.Within cs)
    (if c.peek.isDigit then
      if c.peek == '0' then .error .malformedYaml else .ok (some (c.peek.toNat - 48), c.next)
    else .ok (none, c) : Attempt (Option Nat × Cursor)) :=
  .ite (fun _ => .ite (fun _ => .malformed) fun _ => .ok h.next) fun _ => .ok h

theorem yields_headerEnd (mode : Chomp) (width : Option Nat) (h : c.Within cs) :
    Yields cs (fun r => r.2.2.Within cs)
      (if isGapOrBlank c.peek then
        match c.passLine? with
        | some d => .ok (mode, width, d)
        | none => .error .malformedYaml
      else .error .malformedYaml : Attempt (Chomp × Option Nat × Cursor)) := by
  refine .ite (fun _ => ?_) fun _ => .malformed
  cases hline : c.passLine? with
  | none => exact .malformed
  | some d => exact .ok (h.passLine hline)

theorem yields_blockHeader (h : c.Within cs) :
    Yields cs (fun r => r.2.2.Within cs) (blockHeader? c) := by
  unfold blockHeader?
  dsimp only
  split
  · refine (yields_widthDigit h.next).bind fun r hr => ?_
    exact yields_headerEnd _ _ hr
  · refine (yields_widthDigit h).bind fun r hr => ?_
    split
    · exact yields_headerEnd _ _ hr.next
    · exact yields_headerEnd _ _ hr

theorem within_leadingLines (n : Nat) (got : List Char) (widest : Nat) (h : c.Within cs) :
    (leadingLines n got widest c).2.2.Within cs := by
  induction n generalizing got widest c with
  | zero => exact h
  | succ n ih =>
    rw [leadingLines]
    split
    · exact ih _ _ h.next
    · split
      · rename_i hbreak
        exact ih _ _ (h.lineBreak hbreak)
      · exact h

theorem within_passIndent (indent : Nat) (h : c.Within cs) : (passIndent indent c).Within cs :=
  h.skip _

theorem within_blockBreaks (indent n : Nat) (got : List Char) (h : c.Within cs) :
    (blockBreaks indent n got c).2.Within cs := by
  induction n generalizing got c with
  | zero => exact h
  | succ n ih =>
    rw [blockBreaks]
    split
    · rename_i hbreak
      exact ih _ ((within_passIndent indent h).lineBreak hbreak)
    · exact within_passIndent indent h

theorem within_blockLines (folded : Bool) (indent n : Nat) (got breaks : List Char)
    (h : c.Within cs) : (blockLines folded indent n got breaks c).2.2.2.Within cs := by
  induction n generalizing got breaks c with
  | zero => exact h
  | succ n ih =>
    rw [blockLines]
    have htext := h.skip (c.run fun a => !endsLine a).length
    cases hbreak : (c.skip (c.run fun a => !endsLine a).length).lineBreak? with
    | none =>
      have hbreaks := within_blockBreaks indent
        ((c.skip (c.run fun a => !endsLine a).length).rest.length + 1) [] htext
      dsimp only
      split
      · split
        · exact ih _ _ hbreaks
        · exact ih _ _ hbreaks
      · exact hbreaks
    | some r =>
      obtain ⟨b, d⟩ := r
      have hd : d.Within cs := htext.lineBreak hbreak
      have hbreaks := within_blockBreaks indent (d.rest.length + 1) [] hd
      dsimp only
      split
      · split
        · exact ih _ _ hbreaks
        · exact ih _ _ hbreaks
      · exact hbreaks

theorem within_ite {p : Prop} [Decidable p] {x y : List Char × List Char × List Char × Cursor}
    (hx : x.2.2.2.Within cs) (hy : y.2.2.2.Within cs) :
    (if p then x else y).2.2.2.Within cs := by
  by_cases hp : p
  · rwa [if_pos hp]
  · rwa [if_neg hp]

theorem yields_block (indent : Int) (h : c.Within cs) :
    Yields cs (fun r => r.2.Within cs) (block? indent c) := by
  unfold block?
  refine (yields_blockHeader h.next).bind fun r hr => ?_
  obtain ⟨mode, width, d⟩ := r
  have hd : d.Within cs := hr
  cases width with
  | some w =>
    have hbreaks := within_blockBreaks (Nat.max 1 (indent + 1).toNat + w - 1)
      (d.rest.length + 1) [] hd
    exact .ok (within_ite (within_blockLines _ _ _ _ _ hbreaks) hbreaks)
  | none =>
    have hleading := within_leadingLines (d.rest.length + 1) [] 0 hd
    exact .ok (within_ite (within_blockLines _ _ _ _ _ hleading) hleading)

end

/-! ### Tokens -/

/-- The token does not stand for a failure. -/
def Token.Kind.IsRead (kind : Token.Kind) : Prop := ∀ f, kind ≠ .failure f

namespace Lexer

section

variable {cs : List Char} {c : Cursor}

theorem yields_uriBytes (n : Nat) (got : List UInt8) (h : c.Within cs) :
    Yields cs (fun r => r.2.Within cs) (uriBytes n got c) := by
  induction n generalizing got c with
  | zero => exact .ok h
  | succ n ih =>
    rw [uriBytes]
    refine .ite (fun _ => ?_) fun _ => .ok h
    split
    · exact ih _ (h.skip 3)
    · exact .malformed

theorem yields_uriRest (n : Nat) (got : List Char) (h : c.Within cs) :
    Yields cs (fun r => r.2.Within cs) (uriRest n got c) := by
  induction n generalizing got c with
  | zero => exact .ok h
  | succ n ih =>
    rw [uriRest]
    refine .ite (fun _ => .ok h) fun _ => .ite (fun _ => ?_) fun _ => ih _ h.next
    refine (yields_uriBytes _ [] h).bind fun r hr => ?_
    dsimp only
    split
    · exact ih _ hr
    · exact .malformed

theorem yields_uri (h : c.Within cs) : Yields cs (fun r => r.2.Within cs) (uri c) :=
  (yields_uriRest _ [] h).bind fun _ hr => .ite (fun _ => .malformed) fun _ => .ok hr

theorem yields_handle (h : c.Within cs) : Yields cs (fun r => r.2.Within cs) (handle c) := by
  unfold handle
  refine .ite (fun _ => .malformed) fun _ => .ite (fun _ => .ok h.next) fun _ => ?_
  exact .ite (fun _ => .ok (h.next.skip _).next) fun _ => .malformed

theorem yields_anchorName (h : c.Within cs) :
    Yields cs (fun r => r.2.Within cs) (anchorName c) := by
  unfold anchorName
  refine .ite (fun _ => .malformed) fun _ => ?_
  exact .ite (fun _ => .ok (h.next.skip _)) fun _ => .malformed

theorem yields_tag (h : c.Within cs) :
    Yields cs (fun r => r.1.IsRead ∧ r.2.Within cs) (tag c) := by
  have hend : ∀ (kind : Token.Kind) (d : Cursor), kind.IsRead → d.Within cs →
      Yields cs (fun r => r.1.IsRead ∧ r.2.Within cs)
        (if isGapOrBlank d.peek then .ok (kind, d) else .error .malformedYaml :
          Attempt (Token.Kind × Cursor)) :=
    fun _ _ hk hd => .ite (fun _ => .ok ⟨hk, hd⟩) fun _ => .malformed
  unfold tag
  dsimp only
  refine .ite (fun _ => ?_) fun _ => .ite (fun _ => hend _ _ nofun h.next) fun _ => ?_
  · refine (yields_uri (h.skip 2)).bind fun r hr => ?_
    exact .ite (fun _ => hend _ _ nofun hr.next) fun _ => .malformed
  · refine .ite (fun _ => (yields_handle h).bind fun r hr => ?_) fun _ => ?_
    · exact (yields_uri hr).bind fun s hs => hend _ _ nofun hs
    · exact (yields_uri h.next).bind fun s hs => hend _ _ nofun hs

theorem yields_versionNumber (hyaml : '%' :: "YAML".toList <:+: cs) (h : c.Within cs) :
    Yields cs (fun r => r.2.Within cs) (versionNumber c) := by
  unfold versionNumber
  refine .ite (fun _ => .malformed) fun _ => .ite (fun hlimit => .inr ?_) fun _ => .ok (h.skip _)
  exact .version hyaml (h.run_isInfix _) List.all_takeWhile hlimit

theorem yields_directiveArguments {name : String}
    (hname : name = "YAML" → '%' :: "YAML".toList <:+: cs) (h : c.Within cs) :
    Yields cs (fun r => r.2.Within cs) (directiveArguments name c) := by
  unfold directiveArguments
  refine .ite (fun hyaml => ?_) fun _ => .ite (fun _ => ?_) fun _ => .ok (h.pass _)
  · have hin : '%' :: "YAML".toList <:+: cs := hname (eq_of_beq hyaml)
    refine (yields_versionNumber hin h.passBlanks).bind fun major hmajor => ?_
    refine .ite (fun _ => .malformed) fun _ => ?_
    refine (yields_versionNumber hin hmajor.next).bind fun minor hminor => ?_
    exact .ite (fun _ => .ok hminor) fun _ => .malformed
  · refine (yields_handle h.passBlanks).bind fun name hd => ?_
    refine .ite (fun _ => .malformed) fun _ => ?_
    refine (yields_uri hd.passBlanks).bind fun front hp => ?_
    exact .ite (fun _ => .ok hp) fun _ => .malformed

theorem yields_directive (hpercent : c.peek = '%') (h : c.Within cs) :
    Yields cs (fun r => r.1.IsRead ∧ r.2.Within cs) (directive c) := by
  have hname : String.ofList (c.next.run isNameChar) = "YAML" → '%' :: "YAML".toList <:+: cs := by
    intro hyaml
    have hrun : '%' :: c.next.run isNameChar <+: c.rest := by
      rw [Cursor.rest_eq_cons (by rw [hpercent]; decide), hpercent]
      exact (List.prefix_cons_inj _).2 (List.takeWhile_prefix _)
    rw [← hyaml, String.toList_ofList]
    exact hrun.isInfix.trans h.isInfix
  unfold directive
  refine .ite (fun _ => .malformed) fun _ => ?_
  refine (yields_directiveArguments hname (h.next.skip _)).bind fun r hr => ?_
  dsimp only
  cases hline : r.2.passLine? with
  | none => exact .malformed
  | some d => exact .ok ⟨nofun, hr.passLine hline⟩

end

/-- Tokens, last one first, that come of others: further ones are read, and the marks of keys and of the
mappings that begin with them are put in between. -/
inductive Extends (ts : List Token) : List Token → Prop
  | refl : Extends ts ts
  | read {t : Token} {us : List Token} (ht : t.kind.IsRead) (h : Extends ts us) : Extends ts (t :: us)
  | mark {t : Token} {us : List Token} (ht : t.kind = .key ∨ t.kind = .blockMappingStart) (back : Nat)
      (h : Extends ts us) : Extends ts (us.take back ++ t :: us.drop back)

theorem Extends.isRead {ts us : List Token} (h : Extends ts us) (hts : ∀ t ∈ ts, t.kind.IsRead) :
    ∀ t ∈ us, t.kind.IsRead := by
  induction h with
  | refl => exact hts
  | read ht _ ih => exact List.forall_mem_cons.2 ⟨ht, ih⟩
  | mark ht back _ ih =>
    refine fun u hu => ?_
    rcases List.mem_append.1 hu with hu | hu
    · exact ih u (List.mem_of_mem_take hu)
    · rcases List.mem_cons.1 hu with rfl | hu
      · rcases ht with ht | ht <;> rw [ht] <;> exact nofun
      · exact ih u (List.mem_of_mem_drop hu)

/-- What is the first token stays it, unless a key or a mapping begins in front of it. -/
theorem Extends.getLast? {t : Token} {us : List Token} (h : Extends [t] us) :
    ∃ u, us.getLast? = some u ∧ (u = t ∨ u.kind = .key ∨ u.kind = .blockMappingStart) := by
  induction h with
  | refl => exact ⟨t, rfl, .inl rfl⟩
  | @read u us _ _ ih =>
    obtain ⟨v, hv, h⟩ := ih
    exact ⟨v, by rw [List.getLast?_cons, hv]; rfl, h⟩
  | @mark u us hu back _ ih =>
    obtain ⟨v, hv, h⟩ := ih
    rw [List.getLast?_append, List.getLast?_cons]
    cases hlast : (us.drop back).getLast? with
    | none => exact ⟨u, rfl, .inr hu⟩
    | some w =>
      have hw : us.getLast? = some w := by
        rw [← List.take_append_drop back us, List.getLast?_append, hlast]
        rfl
      exact ⟨w, rfl, (Option.some.inj (hv.symm.trans hw)) ▸ h⟩

/-- The lexer stands within the text and has gone on from some tokens. -/
structure Clean (cs : List Char) (ts : List Token) (l : Lexer) : Prop where
  within : l.place.Within cs
  read : Extends ts l.got

section

variable {cs : List Char} {ts : List Token} {l : Lexer} {k : Token.Kind} {c : Cursor}

theorem Clean.push (h : l.Clean cs ts) (hk : k.IsRead) (line endLine : Nat) :
    (l.push k line endLine).Clean cs ts :=
  ⟨h.within, .read hk h.read⟩

theorem Clean.insertAt (h : l.Clean cs ts) (hk : k = .key ∨ k = .blockMappingStart)
    (position line : Nat) : (l.insertAt position k line).Clean cs ts :=
  ⟨h.within, .mark hk _ h.read⟩

theorem Clean.advance (h : l.Clean cs ts) (hk : k.IsRead) (width : Nat) :
    (l.advance k width).Clean cs ts :=
  ⟨h.within.skip width, (h.push hk _ _).read⟩

theorem Clean.advanceTo (h : l.Clean cs ts) (hk : k.IsRead) (hc : c.Within cs) :
    (l.advanceTo k c).Clean cs ts :=
  ⟨hc, (h.push hk _ _).read⟩

theorem Clean.allowKey (h : l.Clean cs ts) (b : Bool) : (l.allowKey b).Clean cs ts := ⟨h.within, h.read⟩

theorem Clean.toDepth (h : l.Clean cs ts) (depth : Nat) (b : Bool) :
    Clean cs ts { l with depth := depth, keyAllowed := b } := ⟨h.within, h.read⟩

theorem Clean.indentTo (h : l.Clean cs ts) (column : Nat) : (l.indentTo column).Clean cs ts :=
  ⟨h.within, h.read⟩

theorem Clean.unwindFrom (column : Int) (outer : List Int) (h : l.Clean cs ts) :
    (unwindFrom column outer l).Clean cs ts := by
  induction outer generalizing l with
  | nil => exact h
  | cons i outer ih =>
    rw [Lexer.unwindFrom]
    split
    · have hpush := h.push (k := .blockEnd) nofun l.place.line l.place.line
      exact ih ⟨hpush.within, hpush.read⟩
    · exact h

theorem Clean.unwind (h : l.Clean cs ts) (column : Int) : (l.unwind column).Clean cs ts := by
  unfold Lexer.unwind
  split
  · exact h.unwindFrom column _
  · exact h

theorem Clean.passGap (n : Nat) (h : l.Clean cs ts) : (passGap n l).Clean cs ts := by
  induction n generalizing l with
  | zero => exact h
  | succ n ih =>
    rw [Lexer.passGap]
    split
    · rename_i hbreak
      exact ih ⟨h.within.passComment.lineBreak hbreak, h.read⟩
    · exact ⟨h.within.passComment, h.read⟩

theorem Clean.dropStale (h : l.Clean cs ts) : Yields cs (Clean cs ts) l.dropStale :=
  .ite (fun _ => .malformed) fun _ => .ok ⟨h.within, h.read⟩

theorem Clean.dropKey (h : l.Clean cs ts) : Yields cs (Clean cs ts) l.dropKey := by
  unfold Lexer.dropKey
  split
  · exact .ite (fun _ => .malformed) fun _ => .ok ⟨h.within, h.read⟩
  · exact .ok h

theorem Clean.saveKey (h : l.Clean cs ts) : Yields cs (Clean cs ts) l.saveKey :=
  .ite (fun _ => h.dropKey.bind fun _ hl => .ok ⟨hl.within, hl.read⟩) fun _ => .ok h

theorem Clean.outermost (h : l.Clean cs ts) : Yields cs (Clean cs ts) l.outermost :=
  (h.unwind (-1)).dropKey

theorem Clean.asKey (h : l.Clean cs ts) (hk : k.IsRead) (hc : c.Within cs) :
    Yields cs (Clean cs ts) (l.asKey k c) :=
  h.saveKey.bind fun _ hl => .ok ((hl.allowKey false).advanceTo hk hc)

/-- A block collection may begin where the lexer stands, before it goes on. -/
theorem Clean.opening {g : Lexer → Attempt Lexer} (h : l.Clean cs ts) (hk : k.IsRead)
    (hg : ∀ m, Clean cs ts m → Yields cs (Clean cs ts) (g m)) :
    Yields cs (Clean cs ts)
      (if l.depth = 0 then
        if !l.keyAllowed then (.error .malformedYaml : Attempt Lexer) >>= g
        else if l.opens l.place.column then
          pure ((l.indentTo l.place.column).push k l.place.line l.place.line) >>= g
        else pure l >>= g
      else pure l >>= g) := by
  refine .ite (fun _ => .ite (fun _ => .malformed) fun _ => ?_) fun _ => hg l h
  exact .ite (fun _ => hg _ ((h.indentTo _).push hk _ _)) fun _ => hg l h

/-- The last steps of a mark. -/
theorem Clean.mark (h : l.Clean cs ts) (hk : k.IsRead) (b : Bool) :
    Yields cs (Clean cs ts) ((l.allowKey b).dropKey >>= fun m => .ok (m.advance k 1)) :=
  (h.allowKey b).dropKey.bind fun _ hm => .ok (hm.advance hk 1)

theorem Clean.blockEntry (h : l.Clean cs ts) : Yields cs (Clean cs ts) l.blockEntry :=
  h.opening (by nofun) fun _ hm => hm.mark (by nofun) true

theorem Clean.keyMark (h : l.Clean cs ts) : Yields cs (Clean cs ts) l.keyMark :=
  h.opening (by nofun) fun _ hm => hm.mark (by nofun) _

theorem Clean.valueMark (h : l.Clean cs ts) : Yields cs (Clean cs ts) l.valueMark := by
  unfold Lexer.valueMark
  split
  · rename_i key _
    have hplace : Clean cs ts { l with keys := l.keys.filter fun e => e.1 != l.depth } :=
      ⟨h.within, h.read⟩
    have hkey := hplace.insertAt (.inl rfl) key.position key.line
    refine .ok (Clean.advance (Clean.allowKey ?_ _) (by nofun) 1)
    split
    · exact (hkey.indentTo _).insertAt (.inr rfl) _ _
    · exact hkey
  · exact h.opening (by nofun) fun _ hm => hm.mark (by nofun) _

theorem Clean.plainScalar (h : l.Clean cs ts) : Yields cs (Clean cs ts) l.plainScalar :=
  h.saveKey.bind fun _ hl => .ok ((hl.allowKey _).advanceTo (by nofun) (within_plain _ _ hl.within))

/-- **One token** is read within the text, or the text is at fault. -/
theorem Clean.step (h : l.Clean cs ts) : Yields cs (Clean cs ts) l.step := by
  unfold Lexer.step
  refine (h.passGap _).dropStale.bind fun stale hstale => ?_
  have hl := hstale.unwind stale.place.column
  generalize stale.unwind stale.place.column = l at hl ⊢
  dsimp only
  -- the end, directives and marks between documents
  refine .ite (fun _ => ?_) fun _ => .ite (fun hpercent => ?_) fun _ => ?_
  · refine hl.outermost.bind fun l hl => .ok ?_
    exact ⟨hl.within, (hl.push (by nofun) _ _).read⟩
  · have hpeek : l.place.peek = '%' := eq_of_beq (Bool.and_eq_true _ _ ▸ hpercent).1
    refine hl.outermost.bind fun m hm => ?_
    refine (yields_directive hpeek hl.within).bind fun r hr => ?_
    exact .ok ((hm.allowKey false).advanceTo hr.1 hr.2)
  refine .ite (fun _ => ?_) fun _ => .ite (fun _ => ?_) fun _ => ?_
  · exact hl.outermost.bind fun m hm => .ok ((hm.allowKey false).advance (by nofun) 3)
  · exact hl.outermost.bind fun m hm => .ok ((hm.allowKey false).advance (by nofun) 3)
  -- flow collections
  refine .ite (fun _ => ?_) fun _ => .ite (fun _ => ?_) fun _ => .ite (fun _ => ?_) fun _ => ?_
  · refine hl.saveKey.bind fun m hm => .ok ((hm.toDepth _ _).advance ?_ 1)
    split <;> exact nofun
  · refine hl.dropKey.bind fun m hm => .ok ((hm.toDepth _ _).advance ?_ 1)
    split <;> exact nofun
  · exact (hl.allowKey true).dropKey.bind fun m hm => .ok (hm.advance (by nofun) 1)
  -- entries, keys and values
  refine .ite (fun _ => hl.blockEntry) fun _ => .ite (fun _ => hl.keyMark) fun _ => ?_
  refine .ite (fun _ => hl.valueMark) fun _ => ?_
  -- names and tags
  refine .ite (fun _ => ?_) fun _ => .ite (fun _ => ?_) fun _ => ?_
  · refine (yields_anchorName hl.within).bind fun r hr => hl.asKey ?_ hr
    split <;> exact nofun
  · exact (yields_tag hl.within).bind fun r hr => hl.asKey hr.1 hr.2
  -- scalars
  refine .ite (fun _ => ?_) fun _ => .ite (fun _ => ?_) fun _ => ?_
  · refine (hl.allowKey true).dropKey.bind fun m hm => ?_
    exact (yields_block _ hl.within).bind fun r hr => .ok (hm.advanceTo (by nofun) hr)
  · refine hl.saveKey.bind fun m hm => (yields_quoted hl.within).bind fun r hr => ?_
    exact .ok ((hm.allowKey false).advanceTo (by nofun) hr)
  exact .ite (fun _ => hl.plainScalar) fun _ => .malformed

theorem Clean.fault_of_mem_runFrom {t : Token} {f : Fault} (n : Nat) (h : l.Clean cs [])
    (ht : t ∈ runFrom n l) (hf : t.kind = .failure f) : f = .malformedYaml ∨ Overlarge cs f := by
  induction n generalizing l with
  | zero => exact absurd hf (h.read.isRead nofun t (List.mem_reverse.1 ht) f)
  | succ n ih =>
    rw [runFrom] at ht
    split at ht
    · exact absurd hf (h.read.isRead nofun t (List.mem_reverse.1 ht) f)
    · have hstep := h.step
      cases hrun : l.step with
      | ok m =>
        rw [hrun] at ht hstep
        exact ih hstep ht
      | error g =>
        rw [hrun] at ht hstep
        rcases List.mem_cons.1 (List.mem_reverse.1 ht) with rfl | ht
        · cases hf
          exact hstep
        · exact absurd hf (h.read.isRead nofun t ht f)

end

theorem clean_start (s : String) : (start s).Clean s.toList [] := by
  have hstart : (Cursor.start s).Within s.toList := List.suffix_refl _
  unfold start
  dsimp only
  split
  · exact ⟨hstart.next, .refl⟩
  · exact ⟨hstart, .refl⟩

end Lexer

/-- **A failure among the tokens** of a text means that the text is malformed, or that it holds a
number that is too large. -/
theorem fault_of_mem_tokens {s : String} {t : Token} {f : Fault} (ht : t ∈ tokens s)
    (hf : t.kind = .failure f) : f = .malformedYaml ∨ Overlarge s.toList f :=
  (Lexer.clean_start s).fault_of_mem_runFrom _ ht hf

end SlidePress.Yaml
