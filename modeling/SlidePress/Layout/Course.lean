import SlidePress.Icon.Resolver
import SlidePress.Layout.Gather
import SlidePress.Layout.Request
import SlidePress.Reference.Source

/-! # The course of laying out a slide

Laying out a slide takes time, makes calls to those who know about icons and references, and ends
with a result or a failure or not at all. One thing done after another adds up: the second begins
when the first has returned, and does not begin if the first has not.

* `Course`: calls, time and ending.
* `Course.round`: calls made together.
* `calls_bind_of_error`: nothing is called behind a failure. -/

namespace SlidePress

/-- Why a slide could not be laid out. -/
inductive SlideError where
  /-- There is no template with the name that the slide at a position gives. -/
  | noTemplate (name : String) (index : Nat)
  /-- The content of the slide at a position does not fit its template. -/
  | unfit (name : String) (issues : List String) (index : Nat)
  /-- The template itself fails. -/
  | template (f : Fault)
  | icon (e : IconError)
  | reference (e : ReferenceError)
  | fault (f : Fault)
  deriving DecidableEq, Repr

namespace SlideError

/-- The report of an error; faults are described by `describe`. -/
def message (describe : Fault → String) : SlideError → String
  | noTemplate name _ => "Template \"" ++ name ++ "\" not found"
  | unfit name issues _ =>
    "Content validation failed for template \"" ++ name ++ "\": " ++ "; ".intercalate issues
  | template f => "Template rendering failed: " ++ describe f
  | icon e => e.message describe
  | reference e => e.message describe
  | fault f => describe f

/-- A fault of running a template: its own or one of an operation it performs. -/
def ofFault (f : Fault) : SlideError := if f.ofTemplate then template f else fault f

end SlideError

/-- A call to someone who knows about icons or references. -/
inductive Call where
  | icon (r : IconRequest)
  | cite (id : String)
  | expand (s : String)
  deriving Inhabited

/-- Calls with their times, the time that all takes, and how it ends. -/
structure Course (α : Type) where
  calls : List (Nat × Call)
  steps : Nat
  ending : Ending SlideError α

namespace Course

variable {α β γ : Type}

/-- Ends at once, without a call. -/
def ofExcept (r : Except SlideError α) : Course α := ⟨[], 0, Ending.ofExcept r⟩

/-- Returns at once. -/
def done (a : α) : Course α := ⟨[], 0, .ok a⟩

/-- Calls as they are made some time later. -/
def later (time : Nat) (calls : List (Nat × Call)) : List (Nat × Call) :=
  calls.map fun c => (time + c.1, c.2)

/-- Goes on with a result, if there is one. -/
def andThen (c : Course α) (f : α → Course β) : Course β :=
  match c.ending with
  | .ok a =>
    let d := f a
    ⟨c.calls ++ later c.steps d.calls, c.steps + d.steps, d.ending⟩
  | .error h => ⟨c.calls, c.steps, .error h⟩

instance : Monad Course where
  pure := done
  bind := andThen

/-- Calls made together, each with how it is answered; `pace` says how long each takes. Without
calls no time passes. -/
def round (pace : Nat → Nat) (requests : List (Call × Ending SlideError String)) :
    Course (List String) :=
  if requests.isEmpty then done []
  else
    let tasks : List (Task SlideError String) :=
      requests.mapIdx fun i r => ⟨pace i, r.2, none⟩
    ⟨requests.map fun r => (0, r.1), noticeTime tasks, gather tasks⟩

@[simp] theorem ending_pure (a : α) : (pure a : Course α).ending = .ok a := rfl

@[simp] theorem calls_pure (a : α) : (pure a : Course α).calls = [] := rfl

theorem ending_bind (c : Course α) (f : α → Course β) :
    (c >>= f).ending = c.ending >>= fun a => (f a).ending := by
  show (andThen c f).ending = _
  unfold andThen
  cases c.ending <;> rfl

theorem later_zero (calls : List (Nat × Call)) : later 0 calls = calls := by
  simp [later]

theorem later_later (m n : Nat) (calls : List (Nat × Call)) :
    later m (later n calls) = later (m + n) calls := by
  simp [later, Function.comp_def, Nat.add_assoc]

theorem later_append (time : Nat) (cs ds : List (Nat × Call)) :
    later time (cs ++ ds) = later time cs ++ later time ds :=
  List.map_append

theorem andThen_of_ok {c : Course α} {a : α} (h : c.ending = .ok a) (f : α → Course β) :
    andThen c f = ⟨c.calls ++ later c.steps (f a).calls, c.steps + (f a).steps, (f a).ending⟩ := by
  simp [andThen, h]

theorem andThen_of_error {c : Course α} {e : Halt SlideError} (h : c.ending = .error e)
    (f : α → Course β) : andThen c f = ⟨c.calls, c.steps, .error e⟩ := by
  simp [andThen, h]

theorem andThen_assoc (c : Course α) (f : α → Course β) (g : β → Course γ) :
    andThen (andThen c f) g = andThen c fun a => andThen (f a) g := by
  rcases hc : c.ending with e | a
  · rw [andThen_of_error hc f, andThen_of_error hc, andThen_of_error rfl]
  · rw [andThen_of_ok hc f, andThen_of_ok hc]
    rcases hf : (f a).ending with e | b
    · rw [andThen_of_error hf, andThen_of_error rfl]
    · rw [andThen_of_ok hf, andThen_of_ok rfl]
      simp only [later_append, later_later, List.append_assoc, Nat.add_assoc]

theorem andThen_done (c : Course α) : andThen c done = c := by
  rcases c with ⟨calls, steps, e | a⟩
  · rfl
  · simp [andThen, done, later]

theorem done_andThen (a : α) (f : α → Course β) : andThen (done a) f = f a := by
  simp [andThen, done, later_zero]

instance : LawfulMonad Course :=
  LawfulMonad.mk' Course andThen_done done_andThen andThen_assoc

/-- Nothing is called behind a failure. -/
theorem calls_bind_of_error (c : Course α) (f : α → Course β) (h : Halt SlideError)
    (hc : c.ending = .error h) : (c >>= f).calls = c.calls := by
  show (andThen c f).calls = _
  simp [andThen, hc]

end Course

end SlidePress
