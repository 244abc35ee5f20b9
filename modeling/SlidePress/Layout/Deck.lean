import SlidePress.Layout.Slide

/-! # Laying out decks

The slides of a deck are laid out one after the other, or several at a time. There are as many
places to work at as slides may be laid out at a time; a slide that finds none free waits until one
is, in the order of the deck. When one slide fails, those that are not finished are cancelled.

* `startTimes`: when each slide begins.
* `Press.oneByOne`, `Press.together`: the two ways.
* `Press.layOutAt`, `Press.layOutDeck`: the bodies of a deck. -/

namespace SlidePress

/-- Puts a time in its place among ascending times. -/
def insertTime (time : Nat) : List Nat → List Nat
  | [] => [time]
  | t :: ts => if time < t then time :: t :: ts else t :: insertTime time ts

/-- When each of some pieces of work begins, if it ever does. The times at which places are free
ascend; work that waited for a place begins one step after that. A piece of work takes some steps,
or never ends. -/
def startTimes : List Nat → List (Option Nat) → List (Option Nat)
  | _, [] => []
  | [], _ :: works => none :: startTimes [] works
  | time :: free, work :: works =>
    let start := if time = 0 then 0 else time + 1
    let free := match work with
      | some steps => insertTime (start + steps) free
      | none => free
    some start :: startTimes free works

namespace Press

/-- The slides of a deck with their places. -/
def placed (d : Deck) : List (SlidePlace × Slide) :=
  d.slides.mapIdx fun i s => (⟨d.info, i, d.slides.length⟩, s)

/-- Each slide of a deck laid out for itself. -/
def courses (press : Press) (paces : Nat → Pace) (d : Deck) : List (Course String) :=
  (placed d).map fun (place, s) => press.layOut (paces place.index) place s

/-- The slides of a deck, one after the other. -/
def oneByOne (press : Press) (paces : Nat → Pace) (d : Deck) : Course (List String) :=
  (placed d).mapM fun (place, s) => press.layOut (paces place.index) place s

/-- Work as a task that begins at a given time. -/
def taskFrom (start : Option Nat) (c : Course String) : Task SlideError String :=
  match start with
  | some time => ⟨time + c.steps, c.ending, none⟩
  | none => ⟨0, .error .endless, none⟩

/-- The calls of work that begins at a given time. -/
def callsFrom (start : Option Nat) (c : Course String) : List (Nat × Call) :=
  match start with
  | some time => Course.later time c.calls
  | none => []

/-- The slides of a deck, up to `limit` at a time. -/
def together (press : Press) (paces : Nat → Pace) (limit : Nat) (d : Deck) :
    Course (List String) :=
  let cs := press.courses paces d
  let starts := startTimes (List.replicate (min limit cs.length) 0)
    (cs.map fun c => if c.ending.ends then some c.steps else none)
  let tasks := List.zipWith taskFrom starts cs
  let time := noticeTime tasks
  ⟨(List.zipWith callsFrom starts cs).flatten.filter fun c => c.1 ≤ time, time, gather tasks⟩

/-- The bodies of a deck, where the slides have their own paces. -/
def layOutAt (press : Press) (paces : Nat → Pace) (limit : Nat) (d : Deck) :
    Course (List String) :=
  if limit ≤ 1 then press.oneByOne paces d else press.together paces limit d

/-- The bodies of a deck. -/
def layOutDeck (press : Press) (limit : Nat) (d : Deck) : Course (List String) :=
  press.layOutAt (fun _ => Pace.even) limit d

end Press

@[simp] theorem length_startTimes (free : List Nat) (works : List (Option Nat)) :
    (startTimes free works).length = works.length := by
  induction works generalizing free with
  | nil => cases free <;> rfl
  | cons w ws ih => cases free <;> simp [startTimes, ih]

end SlidePress
