import SlidePress.Value.Sequence

/-! # Arguments

What a call passes on: values by position and values by name. Whoever is called lists its
parameters; a call that does not fit them fails.

* `Arguments.bind`: the values of parameters that may be passed either way.
* `Arguments.plain`: the values of parameters that are passed by position only. -/

namespace SlidePress.Template

/-- The arguments of a call. -/
structure Arguments where
  positional : List Value
  named : List (String × Value)
  deriving Inhabited

namespace Arguments

/-- No arguments. -/
def empty : Arguments := ⟨[], []⟩

/-- The values of parameters, the first `needed` of which have to be passed. -/
def bind (params : List String) (needed : Nat) (a : Arguments) : Attempt (List (Option Value)) :=
  let open_ := params.drop a.positional.length
  if params.length < a.positional.length then .error .wrongType
  else if !a.named.all fun p => open_.contains p.1 then .error .wrongType
  else
    let values := a.positional.map some ++ open_.map fun p => a.named.lookup p
    if (values.take needed).all Option.isSome then .ok values else .error .wrongType

/-- Between `least` and `most` values passed by position. -/
def plain (least most : Nat) (a : Arguments) : Attempt (List Value) :=
  if a.named.isEmpty ∧ least ≤ a.positional.length ∧ a.positional.length ≤ most then
    .ok a.positional
  else .error .wrongType

theorem length_bind (params : List String) (needed : Nat) (a : Arguments)
    (vs : List (Option Value)) (h : a.bind params needed = .ok vs) : vs.length = params.length := by
  simp only [bind] at h
  split at h
  · cases h
  · rename_i hlen
    split at h
    · cases h
    · split at h
      · cases h
        simp only [List.length_append, List.length_map, List.length_drop]
        omega
      · cases h

end Arguments

end SlidePress.Template
