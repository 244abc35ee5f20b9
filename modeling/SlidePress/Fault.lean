/-! # Causes of failure

What can go wrong in an operation on values, texts and files, as causes. The wording of a report is
not part of a cause: whoever reports a fault describes it. -/

namespace SlidePress

/-- One place where data does not fit its model: the way to it and what is wrong there. -/
structure Issue where
  path : List String
  message : String
  deriving DecidableEq, Repr

namespace Issue

/-- The way to the place, with points between the steps. -/
def place (i : Issue) : String := ".".intercalate i.path

/-- Place and message in one line; a place at the top is left out. -/
def line (i : Issue) : String := if i.path.isEmpty then i.message else i.place ++ ": " ++ i.message

/-- The issue seen from one step further out. -/
def under (step : String) (i : Issue) : Issue := { i with path := step :: i.path }

end Issue

/-- Why an operation failed. -/
inductive Fault where
  /-- An operand of a kind the operation is not defined for. -/
  | wrongType
  /-- A value without the attribute asked for. -/
  | noAttribute
  /-- A value of the right kind that is not acceptable. -/
  | badValue
  /-- A mapping without the key asked for. -/
  | noKey
  /-- A sequence without the position asked for. -/
  | noIndex
  /-- A number out of range. -/
  | overflow
  /-- A division by zero. -/
  | zeroDivision
  /-- Nesting without a bound. -/
  | tooDeep
  /-- Bytes that are not UTF-8 text. -/
  | undecodable
  /-- A file that is not there. -/
  | missingFile
  /-- A folder where a file was expected. -/
  | folder
  /-- Text that is not YAML. -/
  | malformedYaml
  /-- Text that is not JSON. -/
  | malformedJson
  /-- A regular expression that is not well formed. -/
  | malformedPattern
  /-- A template that is not well formed. -/
  | templateSyntax
  /-- A use of a template variable without a value. -/
  | undefinedValue
  /-- A template that fails while it runs. -/
  | templateRuntime
  /-- An argument of a filter that is out of its range. -/
  | badArgument
  /-- An argument that breaks what is required of it beside another. -/
  | brokenRequirement
  /-- Data that does not fit its model. -/
  | unfit (issues : List Issue)
  deriving DecidableEq, Repr

namespace Fault

/-- A plain description. -/
def describe : Fault → String
  | wrongType => "operand of the wrong kind"
  | noAttribute => "no such attribute"
  | badValue => "unacceptable value"
  | noKey => "no such key"
  | noIndex => "no such position"
  | overflow => "number out of range"
  | zeroDivision => "division by zero"
  | tooDeep => "nesting too deep"
  | undecodable => "not UTF-8 text"
  | missingFile => "no such file"
  | folder => "is a folder"
  | malformedYaml => "malformed YAML"
  | malformedJson => "malformed JSON"
  | malformedPattern => "malformed regular expression"
  | templateSyntax => "malformed template"
  | undefinedValue => "undefined value"
  | templateRuntime => "template failure"
  | badArgument => "unacceptable filter argument"
  | brokenRequirement => "broken requirement"
  | unfit issues => "; ".intercalate (issues.map Issue.line)

/-- A failure of the template itself, as opposed to one of an operation it performs. -/
def ofTemplate : Fault → Bool
  | templateSyntax | undefinedValue | templateRuntime | badArgument => true
  | _ => false

end Fault

/-- The result of an operation that can fail. -/
abbrev Attempt (α : Type) := Except Fault α

/-- Turns a missing result into a fault. -/
def Attempt.ofOption {α : Type} (f : Fault) : Option α → Attempt α
  | some a => .ok a
  | none => .error f

end SlidePress
