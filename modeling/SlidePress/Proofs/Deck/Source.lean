import Mathlib.Tactic.SplitIfs
import SlidePress.Deck.Source

/-! # The two ways to read a deck

A deck is read with or without the lines of its slides. Both ways read the same tokens, build the
same data and check it in the same way, so they end alike (`deck_of_readable`), but for one point: a
text with a character that may not stand in YAML is not opened. One way takes that for malformed
YAML, the other lets the fault through as it is (`ofTextWithLines_of_not_readable`). -/

namespace SlidePress.Deck

/-- A text that holds only characters which may stand in YAML. -/
def Readable (s : String) : Prop := ∀ c ∈ s.toList, Yaml.isAllowed c = true

theorem refused_eq_false_iff {s : String} : Yaml.refused s = false ↔ Readable s := by
  simp [Yaml.refused, Readable]

theorem refused_eq_true_iff {s : String} : Yaml.refused s = true ↔ ¬ Readable s := by
  rw [← refused_eq_false_iff, Bool.not_eq_false]

/-- A report on the data of a text is never that of an unopened text. -/
theorem ofFault_ne (f : Fault) : DeckError.ofFault f ≠ .fault .malformedYaml := by
  cases f <;> simp [DeckError.ofFault]

theorem check_ne (v : Value) : check v ≠ .error (.fault .malformedYaml) := by
  unfold check
  cases ofValue v <;> simp

/-- **A text that is opened** is read alike both ways. -/
theorem deck_of_readable {s : String} (h : Readable s) :
    (ofTextWithLines s).map Prod.fst = ofText s := by
  have hr := refused_eq_false_iff.2 h
  simp only [ofTextWithLines, ofText, Yaml.load, Yaml.Document.ofText?, hr, Bool.false_eq_true,
    if_false]
  rcases Yaml.Document.ofTokens? (Yaml.tokens s) with f | _ | d
  · rfl
  · show (do return (← check .null, []) : Except DeckError (Deck × List Nat)).map Prod.fst =
      check .null
    cases check .null <;> rfl
  · simp only [bind, Except.bind]
    rcases d.data with f | v
    · rfl
    · show (do return (← check v, d.itemLines "slides") : Except DeckError _).map Prod.fst = check v
      cases check v <;> rfl

theorem ofText_of_not_readable {s : String} (h : ¬ Readable s) : ofText s = .error .malformed := by
  simp only [ofText, Yaml.load, Yaml.Document.ofText?, refused_eq_true_iff.2 h, if_true]
  rfl

theorem ofTextWithLines_of_not_readable {s : String} (h : ¬ Readable s) :
    ofTextWithLines s = .error (.fault .malformedYaml) := by
  rw [ofTextWithLines, if_pos (refused_eq_true_iff.2 h)]

/-- A text that is opened is never reported as unopened. -/
theorem ofText_ne (s : String) : ofText s ≠ .error (.fault .malformedYaml) := by
  unfold ofText
  rcases Yaml.load s with f | v
  · exact fun h => ofFault_ne f (by injection h)
  · exact check_ne v

/-- **The two ways to read a deck agree exactly on the texts that are opened**: same deck or same
error. On all others one reports malformed YAML and the other the bare fault; no other text ends
like this. -/
theorem ofTextWithLines_agrees_iff (s : String) :
    ((ofTextWithLines s).map Prod.fst = ofText s ↔ Readable s) ∧
      (ofTextWithLines s = .error (.fault .malformedYaml) ↔ ¬ Readable s) ∧
      (ofText s = .error .malformed ∧ ofTextWithLines s = .error (.fault .malformedYaml) ↔
        ¬ Readable s) := by
  by_cases h : Readable s
  · have hbare : ofTextWithLines s ≠ .error (.fault .malformedYaml) := by
      intro he
      refine ofText_ne s ?_
      rw [← deck_of_readable h, he]
      rfl
    simp [h, deck_of_readable h, hbare]
  · have h1 := ofText_of_not_readable h
    have h2 := ofTextWithLines_of_not_readable h
    refine ⟨⟨fun he => ?_, fun hr => absurd hr h⟩, ⟨fun _ => h, fun _ => h2⟩,
      ⟨fun _ => h, fun _ => ⟨h1, h2⟩⟩⟩
    rw [h1, h2] at he
    cases he

end SlidePress.Deck
