import SlidePress.Deck.Source
import SlidePress.Layout.Course
import SlidePress.Registry.Basic

/-! # Failures of a compilation

A compilation fails in one of its stages, for a cause that the stage reports; the failure keeps both.
Data that is nested in itself has no end to search for citations, which is no stage's failure.

* `CompileError.message`: the reports. -/

namespace SlidePress

/-- The stages that can fail. -/
inductive Stage where
  /-- Templates and icons are loaded. -/
  | setUp
  /-- The deck is read from a text or a file. -/
  | parse (fromFile : Bool)
  /-- The slides are laid out. -/
  | transform
  deriving DecidableEq, Repr

namespace Stage

/-- The written form of a stage. -/
def name : Stage → String
  | setUp => "initialize"
  | parse _ => "parse"
  | transform => "transform"

/-- The beginning of the report on a stage. -/
def failed : Stage → String
  | setUp => "Failed to initialize pipeline: "
  | parse false => "Failed to parse source: "
  | parse true => "Failed to parse source file: "
  | transform => "Failed to transform slides: "

end Stage

/-- What made a stage fail. -/
inductive Cause where
  | load (e : LoadError)
  | deck (e : DeckError)
  | slide (e : SlideError)
  | fault (f : Fault)
  deriving DecidableEq, Repr

/-- The report of a cause; faults are described by `describe`. -/
def Cause.message (describe : Fault → String) : Cause → String
  | load e => e.message describe
  | deck e => e.message describe
  | slide e => e.message describe
  | fault f => describe f

/-- Why a compilation failed. -/
inductive CompileError where
  | stage (s : Stage) (cause : Cause)
  /-- The content of a slide is nested in itself. -/
  | endlessContent
  deriving DecidableEq, Repr

/-- The report of an error; faults are described by `describe`. -/
def CompileError.message (describe : Fault → String) : CompileError → String
  | stage s cause => s.failed ++ cause.message describe
  | endlessContent => describe .tooDeep

end SlidePress
