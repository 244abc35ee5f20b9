import SlidePress.Layout.Slide
import SlidePress.Proofs.Layout.Round

/-! # Plans

What is left to do for a slide, as data: nothing, or calls that are made together and what is done
with their answers. The draft of a slide is a plan of three rounds (`Press.plan`), and laying the
slide out ends as its plan does (`ending_course_plan`).

How a plan ends by itself depends on the pace only in one point: when several calls of a round fail,
which of their errors is reported. `Plan.Ends` lists the endings that are possible. If all calls
end, each course of the plan has one of these endings (`exists_ending_course`), each of them is that
of some course (`Ends.exists_pace`), and a plan that may return does nothing else
(`Ends.eq_of_ok`). -/

namespace SlidePress

/-- What is left to do for a slide. -/
inductive Plan where
  | returned (body : String)
  | failed (e : SlideError)
  /-- Calls of one kind that are made together, and what is done with the answers. -/
  | round (kind : RequestKind) (calls : List Call) (next : List String → Plan)

namespace Plan

variable {answer : Call → Ending SlideError String}

/-- A plan carried out at some pace. -/
def course (answer : Call → Ending SlideError String) (pace : Pace) : Plan → Course String
  | returned body => Course.done body
  | failed e => Course.ofExcept (.error e)
  | round kind calls next => do
    let answers ← Course.round (pace kind) (calls.map fun c => (c, answer c))
    course answer pace (next answers)

/-- **How a plan may end** when nothing stops it. -/
inductive Ends (answer : Call → Ending SlideError String) : Plan → Except SlideError String → Prop
  | returned (body : String) : Ends answer (returned body) (.ok body)
  | failed (e : SlideError) : Ends answer (failed e) (.error e)
  | answered {kind : RequestKind} {calls : List Call} {next : List String → Plan}
      {answers : List String} {r : Except SlideError String}
      (h : calls.map answer = answers.map Except.ok) (hr : Ends answer (next answers) r) :
      Ends answer (round kind calls next) r
  | unanswered {kind : RequestKind} {calls : List Call} {next : List String → Plan} {c : Call}
      {e : SlideError} (hc : c ∈ calls) (h : answer c = .error (.failed e)) :
      Ends answer (round kind calls next) (.error e)

end Plan

namespace Press

/-- The plan of a slide: its icons, then its citations, then its texts. -/
def plan (press : Press) (place : SlidePlace) (s : Slide) : Plan :=
  if s.isRaw then .returned (s.raw.getD "")
  else
    match press.draft place s with
    | .error e => .failed e
    | .ok (draft, requests) =>
      .round .icon (requests.calls .icon) fun icons =>
        .round .cite (requests.calls .cite) fun cites =>
          .round .expand (requests.calls .expand) fun expands =>
            .returned (finished s.cssClass (Requests.fill icons cites expands draft))

end Press

end SlidePress
