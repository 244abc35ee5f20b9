import SlidePress.Proofs.Attempt
import SlidePress.Proofs.Yaml.Lexing
import SlidePress.Yaml.Data

/-! # Texts that begin with a double quote

What stands in the quotes is the first token. It stays the first one unless it turns out to be a key
(`head?_tokens`), and then a mapping begins in front of it, or the mark of a key alone. So if the value of
the whole text is a text, it is the one in the quotes (`exists_of_load_eq_str`), and it is one if nothing
follows the quotes (`load_of_quoted`). -/

namespace SlidePress.Yaml

variable {s : String} {cs text : List Char} {c : Cursor}

/-! ### Tokens -/

namespace Lexer

variable {l m : Lexer}

/-- Behind a scalar in double quotes at the beginning of a text. -/
def behindQuoted (text : List Char) (c : Cursor) : Lexer :=
  ⟨c, 0, -1, [], false, [(0, ⟨0, false, 0, 0, 0⟩)], [⟨.scalar (String.ofList text) false, 0, c.line⟩], 1,
    false⟩

theorem start_eq (h : s.toList = '"' :: cs) :
    start s = ⟨⟨'"' :: cs, 0, 0, 0⟩, 0, -1, [], true, [], [], 0, false⟩ := by
  rw [start, Cursor.start, h]
  rfl

theorem step_start (h : s.toList = '"' :: cs) :
    (start s).step = quoted? ⟨'"' :: cs, 0, 0, 0⟩ >>= fun r => .ok (behindQuoted r.1 r.2) := by
  rw [start_eq h]
  rfl

/-- Where no key has to begin, places of keys are forgotten without an error. -/
theorem exists_dropStale (h : ∀ k ∈ l.keys, k.2.required = false) :
    ∃ keys, l.dropStale = .ok { l with keys := keys } ∧ ∀ k ∈ keys, k.2.required = false := by
  unfold dropStale
  dsimp only
  rw [if_neg]
  · exact ⟨_, rfl, fun k hk => h k (List.mem_of_mem_filter hk)⟩
  · rw [List.any_eq_true]
    rintro ⟨k, hk, hstale⟩
    rw [h k hk, Bool.and_false] at hstale
    cases hstale

theorem exists_dropKey (h : ∀ k ∈ l.keys, k.2.required = false) :
    ∃ keys, l.dropKey = .ok { l with keys := keys } := by
  unfold dropKey
  split
  · rename_i k hk
    obtain ⟨front, back, hkeys, -⟩ := List.lookup_eq_some_iff.1 hk
    have hoptional := h (l.depth, k) (by rw [hkeys]; simp)
    rw [if_neg (by rw [hoptional]; exact Bool.false_ne_true)]
    exact ⟨_, rfl⟩
  · exact ⟨l.keys, rfl⟩

/-- At the end of the text the mark of the end is read. -/
theorem exists_step_behindQuoted (text : List Char) (hc : c.rest = []) :
    ∃ m line, (behindQuoted text c).step = .ok m ∧ m.done = true ∧
      m.got = ⟨.streamEnd, line, line⟩ :: (behindQuoted text c).got := by
  obtain ⟨rest, index, line, column⟩ := c
  obtain rfl : rest = [] := hc
  obtain ⟨keys, hstale, hkeys⟩ :=
    exists_dropStale (l := behindQuoted text ⟨[], index, line, column⟩) (by simp [behindQuoted])
  obtain ⟨keys', hdrop⟩ :=
    exists_dropKey (l := { behindQuoted text ⟨[], index, line, column⟩ with keys := keys }) hkeys
  exact ⟨_, line, (Attempt.bind_ok hstale _).trans (Attempt.bind_ok hdrop _), rfl, rfl⟩

theorem runFrom_of_step (n : Nat) (hl : l.done = false) (h : l.step = .ok m) :
    runFrom (n + 1) l = runFrom n m := by
  rw [runFrom, hl, h]
  rfl

theorem runFrom_of_done (n : Nat) (hl : l.done = true) : runFrom n l = l.got.reverse := by
  cases n with
  | zero => rfl
  | succ n =>
    rw [runFrom, hl]
    rfl

/-- The first token of a run that goes on from one. -/
theorem Clean.head?_runFrom {t : Token} (n : Nat) (h : l.Clean cs [t]) :
    ∃ u, (runFrom n l).head? = some u ∧ (u = t ∨ u.kind = .key ∨ u.kind = .blockMappingStart) := by
  induction n generalizing l with
  | zero =>
    rw [runFrom, List.head?_reverse]
    exact h.read.getLast?
  | succ n ih =>
    cases hdone : l.done with
    | true =>
      rw [runFrom_of_done _ hdone, List.head?_reverse]
      exact h.read.getLast?
    | false =>
      have hstep := h.step
      cases hrun : l.step with
      | ok m =>
        rw [hrun] at hstep
        rw [runFrom_of_step n hdone hrun]
        exact ih hstep
      | error f =>
        obtain ⟨u, hu, hkind⟩ := h.read.getLast?
        refine ⟨u, ?_, hkind⟩
        rw [runFrom, hdone, hrun]
        show ((Token.mk (.failure f) l.place.line l.place.line :: l.got).reverse).head? = _
        rw [List.head?_reverse, List.getLast?_cons, hu]
        rfl

end Lexer

/-- The tokens of a text that is in double quotes as a whole. -/
theorem tokens_of_quoted (hs : s.toList = '"' :: cs)
    (hq : quoted? ⟨'"' :: cs, 0, 0, 0⟩ = .ok (text, c)) (hc : c.rest = []) :
    ∃ line line', tokens s =
      [⟨.scalar (String.ofList text) false, 0, line⟩, ⟨.streamEnd, line', line'⟩] := by
  have hfirst : (Lexer.start s).step = .ok (Lexer.behindQuoted text c) := by
    rw [Lexer.step_start hs, Attempt.bind_ok hq]
  obtain ⟨m, line, hlast, hdone, hgot⟩ := Lexer.exists_step_behindQuoted text hc
  refine ⟨c.line, line, ?_⟩
  have hnot : (Lexer.start s).done = false := by rw [Lexer.start_eq hs]
  rw [tokens]
  rw [Lexer.runFrom_of_step _ hnot hfirst, Lexer.runFrom_of_step _ rfl hlast,
    Lexer.runFrom_of_done _ hdone, hgot]
  rfl

/-- **The first token** of a text that begins with a double quote. -/
theorem head?_tokens (hs : s.toList = '"' :: cs) : ∃ u, (tokens s).head? = some u ∧
    ((∃ f, u.kind = .failure f) ∨ u.kind = .key ∨ u.kind = .blockMappingStart ∨
      ∃ text c, quoted? ⟨'"' :: cs, 0, 0, 0⟩ = .ok (text, c) ∧
        u.kind = .scalar (String.ofList text) false) := by
  have hnot : (Lexer.start s).done = false := by rw [Lexer.start_eq hs]
  have hstep := Lexer.step_start hs
  have hquoted : Yields ('"' :: cs) (fun r => r.2.Within ('"' :: cs)) (quoted? ⟨'"' :: cs, 0, 0, 0⟩) :=
    yields_quoted (List.suffix_refl _)
  rw [tokens]
  cases hq : quoted? ⟨'"' :: cs, 0, 0, 0⟩ with
  | error f =>
    rw [hq] at hstep
    rw [Lexer.runFrom, hnot, hstep, Lexer.start_eq hs]
    exact ⟨_, rfl, .inl ⟨f, rfl⟩⟩
  | ok r =>
    obtain ⟨text, c⟩ := r
    rw [hq] at hstep hquoted
    have hclean : (Lexer.behindQuoted text c).Clean ('"' :: cs) (Lexer.behindQuoted text c).got :=
      ⟨hquoted, .refl⟩
    rw [Lexer.runFrom_of_step _ hnot hstep]
    obtain ⟨u, hu, rfl | hkey | hmapping⟩ := hclean.head?_runFrom _
    · exact ⟨_, hu, .inr (.inr (.inr ⟨text, c, rfl, rfl⟩))⟩
    · exact ⟨u, hu, .inr (.inl hkey)⟩
    · exact ⟨u, hu, .inr (.inr (.inl hmapping))⟩

/-! ### Documents -/

namespace Compose

variable {n : Nat} {u : Token} {ts : List Token} {handles : List (String × String)}

/-- What is left to do behind the node of a document. -/
def ending (n : Nat) (root : Node) : Compose (Option Node) := do
  passEnds n
  let u ← peek
  if u.kind = .streamEnd then return some root else fail

theorem eq_of_ending_eq_ok {n : Nat} {root : Node} {o : Option Node} {st st' : Composer}
    (h : (ending n root).run st = .ok (o, st')) : o = some root := by
  obtain ⟨⟨_, st₁⟩, -, h⟩ := Attempt.bind_eq_ok.1 h
  obtain ⟨⟨u, st₂⟩, -, h⟩ := Attempt.bind_eq_ok.1 h
  dsimp only at h
  split_ifs at h
  · cases h
    rfl
  · cases h

/-- A document without directives and marks is one node. -/
theorem document_of_node (hu : u.kind = .blockMappingStart ∨ ∃ text, u.kind = .scalar text false) :
    (document n).run ⟨u :: ts, handles, [], []⟩ =
      (node n true false).run ⟨u :: ts, handles, [], []⟩ >>= fun p => (ending n p.1).run p.2 := by
  obtain ⟨kind, line, endLine⟩ := u
  have hrun : (document n).run ⟨⟨kind, line, endLine⟩ :: ts, handles, [], []⟩ =
      (some <$> node n true false : Compose (Option Node)).run
        ⟨⟨kind, line, endLine⟩ :: ts, handles, [], []⟩ >>= fun p =>
          (if p.1.isSome then do
              passEnds n
              let u ← peek
              if u.kind = .streamEnd then return p.1 else fail
            else return none : Compose (Option Node)).run p.2 := by
    obtain hkind | ⟨text, hkind⟩ := hu
    · obtain rfl : kind = _ := hkind
      rfl
    · obtain rfl : kind = _ := hkind
      rfl
  rw [hrun, StateT.run_map]
  cases (node n true false).run ⟨⟨kind, line, endLine⟩ :: ts, handles, [], []⟩ <;> rfl

theorem node_of_scalar {text : String} (hu : u.kind = .scalar text false) :
    (node (n + 1) true false).run ⟨u :: ts, handles, [], []⟩ =
      .ok (.scalar u.line .str text, ⟨ts, handles, [], []⟩) := by
  obtain ⟨kind, line, endLine⟩ := u
  obtain rfl : kind = _ := hu
  rfl

theorem node_of_mapping (hu : u.kind = .blockMappingStart) :
    ∃ name, (node (n + 1) true false).run ⟨u :: ts, handles, [], []⟩ =
      (blockPairs n []).run ⟨ts, handles, [], []⟩ >>= fun p =>
        .ok (.mapping name u.line .map p.1, p.2) := by
  obtain ⟨kind, line, endLine⟩ := u
  obtain rfl : kind = _ := hu
  exact ⟨_, rfl⟩

theorem document_of_key (hu : u.kind = .key) :
    (document (n + 1)).run ⟨u :: ts, handles, [], []⟩ = .error .malformedYaml := by
  obtain ⟨kind, line, endLine⟩ := u
  obtain rfl : kind = _ := hu
  rfl

theorem document_of_failure {f : Fault} (hu : u.kind = .failure f) :
    (document n).run ⟨u :: ts, handles, [], []⟩ = .error f := by
  obtain ⟨kind, line, endLine⟩ := u
  obtain rfl : kind = _ := hu
  rfl

end Compose

/-- **The root of a document** whose first token is a scalar in quotes, a key, a mapping or a failure is
that scalar or a mapping. -/
theorem exists_root_of_ofTokens? {u : Token} {ts : List Token} {o : Option Document}
    (hu : (∃ f, u.kind = .failure f) ∨ u.kind = .key ∨ u.kind = .blockMappingStart ∨
      ∃ text, u.kind = .scalar text false) (h : Document.ofTokens? (u :: ts) = .ok o) :
    ∃ d, o = some d ∧ ((∃ text, u.kind = .scalar text false ∧ d.root = .scalar u.line .str text) ∨
      ∃ name pairs, d.root = .mapping name u.line .map pairs) := by
  obtain ⟨⟨root, st⟩, hrun, h⟩ := Attempt.bind_eq_ok.1 h
  cases h
  rcases hu with ⟨f, hf⟩ | hkey | hmapping | ⟨text, hscalar⟩
  · rw [Compose.document_of_failure hf] at hrun
    cases hrun
  · have herror := hrun.symm.trans (Compose.document_of_key hkey)
    cases herror
  · rw [Compose.document_of_node (.inl hmapping)] at hrun
    obtain ⟨⟨n, st'⟩, hnode, hending⟩ := Attempt.bind_eq_ok.1 hrun
    obtain ⟨name, heq⟩ := Compose.node_of_mapping hmapping
    obtain ⟨⟨pairs, st''⟩, -, hpairs⟩ := Attempt.bind_eq_ok.1 (heq.symm.trans hnode)
    cases hpairs
    rw [Compose.eq_of_ending_eq_ok hending]
    exact ⟨_, rfl, .inr ⟨name, pairs, rfl⟩⟩
  · rw [Compose.document_of_node (.inr ⟨text, hscalar⟩)] at hrun
    obtain ⟨⟨n, st'⟩, hnode, hending⟩ := Attempt.bind_eq_ok.1 hrun
    cases (Compose.node_of_scalar hscalar).symm.trans hnode
    rw [Compose.eq_of_ending_eq_ok hending]
    exact ⟨_, rfl, .inl ⟨text, hscalar, rfl⟩⟩

/-! ### Values -/

namespace Document

variable {d : Document}

theorem data_of_scalar {line : Nat} {text : String} (h : d.root = .scalar line .str text) :
    d.data = .ok (.str text) := by
  obtain ⟨fuel, hfuel⟩ := d.exists_bound
  rw [data, h, hfuel]
  rfl

theorem data_of_mapping {name : String} {line : Nat} {pairs : List (Node × Node)}
    (h : d.root = .mapping name line .map pairs) (text : String) : d.data ≠ .ok (.str text) := by
  obtain ⟨fuel, hfuel⟩ := d.exists_bound
  intro hdata
  rw [data, h, hfuel] at hdata
  split at hdata
  · rename_i v hbuild
    obtain ⟨merged, -, hbuild⟩ := Attempt.bind_eq_ok.1 hbuild
    obtain ⟨entries, -, hbuild⟩ := Attempt.bind_eq_ok.1 hbuild
    cases hbuild
    cases hdata
  · cases hdata

end Document

/-- **If the value of a text that begins with a double quote is a text**, it is what stands in the
quotes. -/
theorem exists_of_load_eq_str {v : String} (hs : s.toList = '"' :: cs) (h : load s = .ok (.str v)) :
    ∃ c, quoted? ⟨'"' :: cs, 0, 0, 0⟩ = .ok (v.toList, c) := by
  obtain ⟨o, ho, hdata⟩ := Attempt.bind_eq_ok.1 h
  unfold Document.ofText? at ho
  split_ifs at ho
  obtain ⟨u, hu, hkind⟩ := head?_tokens hs
  obtain ⟨ts, hts⟩ := List.head?_eq_some_iff.1 hu
  rw [hts] at ho
  have hfirst : (∃ f, u.kind = .failure f) ∨ u.kind = .key ∨ u.kind = .blockMappingStart ∨
      ∃ text, u.kind = .scalar text false :=
    hkind.imp_right (.imp_right (.imp_right fun ⟨text, _, _, hscalar⟩ => ⟨_, hscalar⟩))
  obtain ⟨d, rfl, ⟨text, hscalar, hroot⟩ | ⟨name, pairs, hroot⟩⟩ := exists_root_of_ofTokens? hfirst ho
  · obtain rfl : text = v :=
      Value.str.inj (Except.ok.inj ((Document.data_of_scalar hroot).symm.trans hdata))
    rcases hkind with ⟨f, hf⟩ | hkey | hmapping | ⟨cs', c, hq, hscalar'⟩
    · cases hscalar.symm.trans hf
    · cases hscalar.symm.trans hkey
    · cases hscalar.symm.trans hmapping
    · cases hscalar.symm.trans hscalar'
      exact ⟨c, by rw [String.toList_ofList]; exact hq⟩
  · exact absurd hdata (Document.data_of_mapping hroot v)

/-- **The value of a text that is in double quotes as a whole** is what stands in the quotes. -/
theorem load_of_quoted (hs : s.toList = '"' :: cs) (hallowed : refused s = false)
    (hq : quoted? ⟨'"' :: cs, 0, 0, 0⟩ = .ok (text, c)) (hc : c.rest = []) :
    load s = .ok (.str (String.ofList text)) := by
  obtain ⟨line, line', htokens⟩ := tokens_of_quoted hs hq hc
  have hdocument : Document.ofText? s =
      .ok (some ⟨.scalar 0 .str (String.ofList text), []⟩) := by
    rw [Document.ofText?, hallowed, htokens]
    rfl
  rw [load, Attempt.bind_ok hdocument]
  exact Document.data_of_scalar rfl

end SlidePress.Yaml
