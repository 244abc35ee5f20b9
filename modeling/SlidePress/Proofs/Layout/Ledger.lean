import Mathlib.Data.List.Nodup
import SlidePress.Proofs.Layout.Journal
import SlidePress.Proofs.Layout.Nesting

/-! # The numbers of requests

A request gets the number of requests of its kind that there are already. In a ledger, where an entry
under a number that is taken replaces what stands there, no request is ever lost for it: the numbers
of each kind are `0, 1, 2, …` in this order, and a call adds one entry behind those of its own kind
and touches nothing else (`entries_add`). The lists in which requests are recorded are the entries of
such a ledger without their numbers (`add_ofRequests`).

No token is part of another one (`tok_isInfix_tok_iff`). The tokens of a run belong to different
numbers or kinds (`nodup_keys`), so a text that holds one of them never holds another for it. The main
result on whole runs is `recorded_run`. -/

namespace SlidePress

/-- Requests under their numbers, each kind for itself. -/
structure Ledger where
  icons : List (Nat × IconRequest)
  cites : List (Nat × String)
  expands : List (Nat × String)

namespace Ledger

open Requests

/-! ### Entries under numbers -/

section Entries

variable {α β : Type}

/-- Puts something under a number: in place where the number is taken, at the end otherwise. -/
def put (n : Nat) (a : α) : List (Nat × α) → List (Nat × α)
  | [] => [(n, a)]
  | e :: es => if e.1 = n then (n, a) :: es else e :: put n a es

/-- Things under their places in a list. -/
def enumerate (as : List α) : List (Nat × α) := as.mapIdx Prod.mk

theorem length_enumerate (as : List α) : (enumerate as).length = as.length := List.length_mapIdx

theorem enumerate_append_singleton (as : List α) (a : α) :
    enumerate (as ++ [a]) = enumerate as ++ [(as.length, a)] := by
  simp [enumerate, List.mapIdx_append]

theorem map_fst_enumerate (as : List α) : (enumerate as).map Prod.fst = List.range as.length :=
  List.ext_getElem (by simp [enumerate]) fun i _ _ => by simp [enumerate]

theorem map_snd_enumerate (as : List α) : (enumerate as).map Prod.snd = as :=
  List.ext_getElem (by simp [enumerate]) fun i _ _ => by simp [enumerate]

theorem map_enumerate (f : α → β) (as : List α) :
    ((enumerate as).map fun e => (e.1, f e.2)) = enumerate (as.map f) :=
  List.ext_getElem (by simp [enumerate]) fun i _ _ => by simp [enumerate]

/-- Under a number that is free, an entry is put behind all others. -/
theorem put_of_free {n : Nat} (a : α) :
    ∀ {es : List (Nat × α)}, (∀ e ∈ es, e.1 ≠ n) → put n a es = es ++ [(n, a)]
  | [], _ => rfl
  | e :: es, h => by
    rw [put, if_neg (h e List.mem_cons_self),
      put_of_free a fun f hf => h f (List.mem_cons_of_mem e hf), List.cons_append]

/-- The number of entries is free. -/
theorem put_enumerate (as : List α) (a : α) :
    put as.length a (enumerate as) = enumerate (as ++ [a]) := by
  rw [enumerate_append_singleton]
  refine put_of_free a fun e he => ?_
  obtain ⟨i, hi, rfl⟩ := List.mem_mapIdx.1 he
  exact hi.ne

theorem lookup_mapIdx (as : List α) (k n : Nat) :
    (as.mapIdx fun i a => (k + i, a)).lookup (k + n) = as[n]? := by
  induction as generalizing k n with
  | nil => rfl
  | cons a as ih =>
    rw [List.mapIdx_cons, List.lookup_cons]
    cases n with
    | zero => simp
    | succ n =>
      have hne : (k + (n + 1) == k + 0) = false := by simp
      rw [hne, List.getElem?_cons_succ, ← ih (k + 1) n]
      simp only [Nat.add_assoc, Nat.add_comm 1]

theorem lookup_enumerate (as : List α) (n : Nat) : (enumerate as).lookup n = as[n]? := by
  simpa [enumerate] using lookup_mapIdx as 0 n

end Entries

/-! ### Recording -/

/-- No requests. -/
def empty : Ledger := ⟨[], [], []⟩

/-- Records a request under the number of requests of its kind. -/
def add (l : Ledger) : Call → String × Ledger
  | .icon r => (iconToken l.icons.length, { l with icons := put l.icons.length r l.icons })
  | .cite id => (citeToken l.cites.length, { l with cites := put l.cites.length id l.cites })
  | .expand s =>
    (expandToken l.expands.length, { l with expands := put l.expands.length s l.expands })

/-- The entries of one kind, as calls. -/
def entries (l : Ledger) : RequestKind → List (Nat × Call)
  | .icon => l.icons.map fun e => (e.1, .icon e.2)
  | .cite => l.cites.map fun e => (e.1, .cite e.2)
  | .expand => l.expands.map fun e => (e.1, .expand e.2)

/-- Recorded requests under their numbers. -/
def ofRequests (r : Requests) : Ledger :=
  ⟨enumerate r.icons, enumerate r.cites, enumerate r.expands⟩

theorem add_ofRequests (r : Requests) (c : Call) :
    (ofRequests r).add c = ((r.add c).1, ofRequests (r.add c).2) := by
  cases c <;>
    simp [add, ofRequests, Requests.add, addIcon, addCite, addExpand, length_enumerate,
      put_enumerate]

theorem entries_ofRequests (r : Requests) (kind : RequestKind) :
    (ofRequests r).entries kind = enumerate (r.calls kind) := by
  cases kind <;> exact map_enumerate _ _

theorem entries_ofJournal (js : List Call) (kind : RequestKind) :
    (ofRequests (ofJournal js)).entries kind = enumerate (ofKind kind js) := by
  rw [entries_ofRequests, calls_ofJournal]

/-- **A call adds one entry** behind those of its own kind, and touches nothing else. -/
theorem entries_add (js : List Call) (c : Call) (kind : RequestKind) :
    ((ofRequests (ofJournal js)).add c).2.entries kind =
      if kind = c.kind then
        (ofRequests (ofJournal js)).entries kind ++ [((ofKind c.kind js).length, c)]
      else (ofRequests (ofJournal js)).entries kind := by
  rw [add_ofRequests, add_ofJournal]
  simp only [entries_ofJournal, ofKind_append, ofKind_singleton]
  split_ifs with h
  · rw [enumerate_append_singleton, h]
  · rw [List.append_nil]

end Ledger

namespace Requests

/-! ### Runs -/

/-- Makes calls one after the other: the tokens that are answered, and what is recorded at the
end. -/
def record {σ : Type} (add : σ → Call → String × σ) (s : σ) : List Call → List String × σ
  | [] => ([], s)
  | c :: cs =>
    let (t, s') := add s c
    let (ts, s'') := record add s' cs
    (t :: ts, s'')

/-- The kinds and numbers of calls behind those of a journal. -/
def keys (js : List Call) : List Call → List (RequestKind × Nat)
  | [] => []
  | c :: cs => (c.kind, (ofKind c.kind js).length) :: keys (js ++ [c]) cs

theorem record_ofJournal (js cs : List Call) :
    record add (ofJournal js) cs =
      ((keys js cs).map fun k => token k.1 k.2, ofJournal (js ++ cs)) := by
  induction cs generalizing js with
  | nil => simp [record, keys]
  | cons c cs ih => simp [record, keys, add_ofJournal, ih]

theorem record_ofRequests (r : Requests) (cs : List Call) :
    record Ledger.add (Ledger.ofRequests r) cs =
      ((record add r cs).1, Ledger.ofRequests (record add r cs).2) := by
  induction cs generalizing r with
  | nil => rfl
  | cons c cs ih => simp [record, Ledger.add_ofRequests, ih]

theorem length_keys (js cs : List Call) : (keys js cs).length = cs.length := by
  induction cs generalizing js with
  | nil => rfl
  | cons c cs ih => simp [keys, ih]

theorem keys_append (js cs ds : List Call) :
    keys js (cs ++ ds) = keys js cs ++ keys (js ++ cs) ds := by
  induction cs generalizing js with
  | nil => simp [keys]
  | cons c cs ih => simp [keys, ih]

/-- The numbers of a kind go on where those of the journal end. -/
theorem le_of_mem_keys {js cs : List Call} {k : RequestKind × Nat} (h : k ∈ keys js cs) :
    (ofKind k.1 js).length ≤ k.2 := by
  induction cs generalizing js with
  | nil => cases h
  | cons c cs ih =>
    rcases List.mem_cons.1 h with rfl | h
    · exact le_rfl
    · have hle := ih h
      rw [ofKind_append, List.length_append] at hle
      omega

/-- **No two calls** of a run have the same kind and number. -/
theorem nodup_keys (js cs : List Call) : (keys js cs).Nodup := by
  induction cs generalizing js with
  | nil => exact List.nodup_nil
  | cons c cs ih =>
    refine List.nodup_cons.2 ⟨fun h => ?_, ih _⟩
    have hle := le_of_mem_keys h
    rw [ofKind_append, ofKind_singleton, if_pos rfl, List.length_append] at hle
    exact absurd hle (Nat.not_succ_le_self _)

/-- **No token is part of another one.** -/
theorem tok_isInfix_tok_iff (t u : RequestKind × Nat) : tok t <:+: tok u ↔ t = u := by
  -- a single token is a template with no text around it
  have hnone : ¬ marker <:+: Piece.spell (fun _ => []) [Piece.token u] :=
    show ¬ marker <:+: [] by decide
  simpa using tok_isInfix_iff (fun _ => []) t [.token u] hnone

theorem token_injective : Function.Injective fun t : RequestKind × Nat => token t.1 t.2 := by
  intro t u h
  have htok : tok t = tok u := congrArg String.toList h
  exact (tok_isInfix_tok_iff t u).1 (htok ▸ List.infix_rfl)

/-- What a ledger has after a run: the calls of each kind under their places among them. -/
theorem record_empty (cs : List Call) :
    record Ledger.add .empty cs =
      ((keys [] cs).map fun k => token k.1 k.2, Ledger.ofRequests (ofJournal cs)) := by
  have hrun := record_ofRequests (ofJournal []) cs
  rwa [record_ofJournal, List.nil_append] at hrun

theorem keys_getElem?_length (before : List Call) (c : Call) (after : List Call) :
    (keys [] (before ++ c :: after))[before.length]? =
      some (c.kind, (ofKind c.kind before).length) := by
  rw [keys_append, List.getElem?_append_right (length_keys [] before).le, length_keys, Nat.sub_self]
  rfl

theorem ofKind_getElem?_length (before : List Call) (c : Call) (after : List Call) :
    (ofKind c.kind (before ++ c :: after))[(ofKind c.kind before).length]? = some c := by
  rw [ofKind_append, List.getElem?_append_right le_rfl, Nat.sub_self,
    ← List.singleton_append, ofKind_append, ofKind_singleton, if_pos rfl]
  rfl

/-- **The numbers of requests.** However calls of the three kinds follow one another: the numbers of
each kind are those below the number of its calls, in order; a call is answered with the token for the
number of calls of its kind before it, under which it stands at the end; it adds one entry behind those
of its own kind and leaves all others, and those of the other kinds, as they are. The lists of recorded
requests are the entries without their numbers. All tokens of a run are different, and none is part of
another one. -/
theorem recorded_run (cs : List Call) :
    ∃ tokens ledger, record Ledger.add .empty cs = (tokens, ledger) ∧
      (∃ r, record add .empty cs = (tokens, r) ∧
        ∀ kind, r.calls kind = (ledger.entries kind).map Prod.snd) ∧
      (∀ kind, (ledger.entries kind).map Prod.fst = List.range (ofKind kind cs).length) ∧
      (∀ before c after, cs = before ++ c :: after → ∃ tokens' ledger',
        record Ledger.add .empty before = (tokens', ledger') ∧
        (ledger'.add c).1 = token c.kind (ofKind c.kind before).length ∧
        (∀ kind, (ledger'.add c).2.entries kind =
          if kind = c.kind then
            ledger'.entries kind ++ [((ofKind c.kind before).length, c)]
          else ledger'.entries kind) ∧
        tokens[before.length]? = some (token c.kind (ofKind c.kind before).length) ∧
        (ledger.entries c.kind).lookup (ofKind c.kind before).length = some c) ∧
      tokens.Nodup ∧
      tokens.Pairwise fun s t => ¬ s.toList <:+: t.toList ∧ ¬ t.toList <:+: s.toList := by
  refine ⟨_, _, record_empty cs, ⟨_, record_ofJournal [] cs, fun kind => ?_⟩, fun kind => ?_,
    ?_, ?_, ?_⟩
  · rw [Ledger.entries_ofRequests, Ledger.map_snd_enumerate, List.nil_append]
  · rw [Ledger.entries_ofJournal, Ledger.map_fst_enumerate]
  · rintro before c after rfl
    refine ⟨_, _, record_empty before, ?_, Ledger.entries_add before c, ?_, ?_⟩
    · rw [Ledger.add_ofRequests, add_ofJournal]
    · rw [List.getElem?_map, keys_getElem?_length]
      rfl
    · rw [Ledger.entries_ofJournal, Ledger.lookup_enumerate, ofKind_getElem?_length]
  · exact List.Nodup.map token_injective (nodup_keys [] cs)
  · exact List.pairwise_map.2 ((nodup_keys [] cs).imp fun {k k'} hne =>
      ⟨fun h => hne ((tok_isInfix_tok_iff k k').1 h),
        fun h => hne ((tok_isInfix_tok_iff k' k).1 h).symm⟩)

/-- The same citation is recorded as often as it is asked for. -/
example : (record Ledger.add .empty [.cite "a", .expand "b", .cite "a"]).2.cites =
    [(0, "a"), (1, "a")] := rfl

end Requests

end SlidePress
