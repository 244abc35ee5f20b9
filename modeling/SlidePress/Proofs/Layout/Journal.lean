import SlidePress.Proofs.Layout.Token
import SlidePress.Proofs.Template.Caller

/-! # The journal of a template

The template of a slide asks for icons and citations wherever it likes: in loops, under conditions,
in the arguments of other calls. What it asks for is recorded in three lists, one for each kind. A
caller that keeps a journal instead writes down every call when it is made, whatever its kind, and
answers with the same tokens. A template cannot tell the two apart (`journal_mirrors`), so its
requests are those of its journal, kind by kind and in the order in which they were made, none left
out and none taken together with an equal one (`Press.run_eq_journal`). -/

namespace SlidePress

/-- The kind of request that leads to a call. -/
def Call.kind : Call → RequestKind
  | icon _ => .icon
  | cite _ => .cite
  | expand _ => .expand

namespace Requests

open Template (Arguments)

/-- What a call of a helper object asks for. -/
def askedFor (object operation : String) (a : Arguments) : Attempt Call := do
  match object, operation with
  | "icons", "render" => return .icon (← iconOf a)
  | "refs", "cite" => return .cite (← argument "ref_id" a).text
  | "refs", "expand" => return .expand (textToExpand (← argument "text" a))
  | _, _ => throw .noAttribute

/-- The calls of one kind in a journal. -/
def ofKind (kind : RequestKind) (js : List Call) : List Call := js.filter fun c => c.kind = kind

theorem ofKind_append (kind : RequestKind) (js ks : List Call) :
    ofKind kind (js ++ ks) = ofKind kind js ++ ofKind kind ks := List.filter_append js ks

theorem ofKind_singleton (kind : RequestKind) (c : Call) :
    ofKind kind [c] = if kind = c.kind then [c] else [] := by
  by_cases h : kind = c.kind
  · simp [ofKind, h]
  · simp [ofKind, h, Ne.symm h]

/-- A caller that writes every call down. -/
def journal : Template.Host (List Call) where
  operations := operations
  call object operation a js := do
    let c ← askedFor object operation a
    return (.str (token c.kind (ofKind c.kind js).length), js ++ [c])

/-- The requests that a journal tells of. -/
def ofJournal (js : List Call) : Requests where
  icons := js.filterMap fun
    | .icon r => some r
    | _ => none
  cites := js.filterMap fun
    | .cite id => some id
    | _ => none
  expands := js.filterMap fun
    | .expand s => some s
    | _ => none

/-- The calls that the requests of a journal lead to are its calls, kind by kind. -/
theorem calls_ofJournal (kind : RequestKind) (js : List Call) :
    (ofJournal js).calls kind = ofKind kind js := by
  induction js with
  | nil => cases kind <;> rfl
  | cons c js ih =>
    unfold ofKind at ih ⊢
    cases kind <;> cases c <;> simp_all [ofJournal, calls, Call.kind]

/-- Records a request. -/
def add (r : Requests) : Call → String × Requests
  | .icon i => r.addIcon i
  | .cite id => r.addCite id
  | .expand s => r.addExpand s

theorem call_eq (object operation : String) (a : Arguments) (r : Requests) :
    call object operation a r = do return answered (r.add (← askedFor object operation a)) := by
  unfold call
  split
  · unfold askedFor
    cases iconOf a <;> rfl
  · unfold askedFor
    cases argument "ref_id" a <;> rfl
  · unfold askedFor
    cases argument "text" a <;> rfl
  · rename_i hicon hcite hexpand
    unfold askedFor
    split
    · exact (hicon rfl rfl).elim
    · exact (hcite rfl rfl).elim
    · exact (hexpand rfl rfl).elim
    · rfl

theorem add_ofJournal (js : List Call) (c : Call) :
    (ofJournal js).add c = (token c.kind (ofKind c.kind js).length, ofJournal (js ++ [c])) := by
  rw [← calls_ofJournal]
  cases c <;> simp [add, addIcon, addCite, addExpand, token, calls, Call.kind, ofJournal]

/-- **A caller that records requests and one that keeps a journal** answer alike. -/
theorem journal_mirrors : Template.Host.Mirrors ofJournal helpers journal where
  operations := rfl
  call object operation a js := by
    show call object operation a (ofJournal js) = _
    rw [call_eq]
    show _ = (askedFor object operation a >>= fun c => _ : Attempt (Value × List Call)).map _
    cases askedFor object operation a with
    | error e => rfl
    | ok c =>
      show Except.ok (answered ((ofJournal js).add c)) = _
      rw [add_ofJournal]
      rfl

end Requests

namespace Press

/-- The text that a template leaves for some content, and the journal of its calls. -/
def journalOf (place : SlidePlace) (content : Entries) (output : String) :
    Except SlideError (String × List Call) :=
  (Template.renderWith .slide Requests.journal (place.scope content) [] output).mapError
    SlideError.ofFault

/-- **The requests of a template** are those of its journal. -/
theorem run_eq_journal (place : SlidePlace) (content : Entries) (output : String) :
    run place content output =
      (journalOf place content output).map fun p => (p.1, Requests.ofJournal p.2) := by
  unfold run journalOf
  show (Template.renderWith .slide Requests.helpers _ (Requests.ofJournal []) output).mapError _ = _
  rw [Template.renderWith_mirrors Requests.journal_mirrors]
  cases Template.renderWith .slide Requests.journal (place.scope content) [] output <;> rfl

end Press

end SlidePress
