import SlidePress.Deck.Model
import SlidePress.Files
import SlidePress.Yaml.Data

/-! # Decks from their sources

A deck is written as a YAML text. Reading it fails in one of three ways: the text is not well
formed, its data is not a deck, or building the data failed.

* `Deck.ofText`: the deck of a text.
* `Deck.ofTextWithLines`: the deck and the lines on which its slides begin. -/

namespace SlidePress

/-- Why a deck could not be read. -/
inductive DeckError where
  /-- The text is not well-formed YAML. -/
  | malformed
  /-- There is no such file. -/
  | missing (path : String)
  /-- The file could not be read. -/
  | unreadable (path : String)
  /-- The data is not a deck. -/
  | unfit (issues : List Issue)
  /-- The data could not be built. -/
  | fault (f : Fault)
  deriving DecidableEq, Repr

namespace DeckError

/-- The report of an error; faults are described by `describe`. -/
def message (describe : Fault → String) : DeckError → String
  | malformed => "Failed to parse YAML"
  | missing path => "File not found: " ++ path
  | unreadable path => "Failed to read file: " ++ path
  | unfit _ => "Schema validation failed"
  | fault f => describe f

/-- A fault of reading YAML, as an error of a deck. -/
def ofFault : Fault → DeckError
  | .malformedYaml => malformed
  | f => fault f

end DeckError

namespace Deck

/-- The deck in some data. -/
def check (v : Value) : Except DeckError Deck :=
  match ofValue v with
  | .ok d => .ok d
  | .error issues => .error (.unfit issues)

/-- The deck of a text. -/
def ofText (s : String) : Except DeckError Deck :=
  match Yaml.load s with
  | .ok v => check v
  | .error f => .error (DeckError.ofFault f)

/-- The source in a file. -/
def textInFile (path : String) (body : Option Body) : Except DeckError String :=
  match Body.read body with
  | .ok s => .ok s
  | .error .missingFile => .error (.missing path)
  | .error .folder => .error (.unreadable path)
  | .error f => .error (.fault f)

/-- The deck of a text with the lines, from 1, on which its slides begin. A text with characters
that may not stand in YAML is not opened at all. -/
def ofTextWithLines (s : String) : Except DeckError (Deck × List Nat) :=
  if Yaml.refused s then .error (.fault .malformedYaml)
  else
    match Yaml.Document.ofTokens? (Yaml.tokens s) with
    | .error f => .error (DeckError.ofFault f)
    | .ok none => do return (← check .null, [])
    | .ok (some d) =>
      match d.data with
      | .error f => .error (DeckError.ofFault f)
      | .ok v => do return (← check v, d.itemLines "slides")

end Deck

end SlidePress
