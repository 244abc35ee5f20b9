import SlidePress.Text.Case
import SlidePress.Value.Text

/-! # Reading records from mappings

A record with typed fields is read from a mapping whose values may be anything. Every field is
looked at, so a report lists the issues of all fields, in the order of the fields; fields that the
record does not have are ignored. Texts may come as UTF-8 bytes, lists as any sequence or set, and
truth values also as the words and numbers usual for them; nothing else is converted.

* `Fields.required`, `Fields.withDefault`: one field of a record.
* `Fields.andThen`: two parts of a record; the issues of both are reported. -/

namespace SlidePress

/-- A part of a record, or what is wrong with it. -/
abbrev Reading (α : Type) := Except (List Issue) α

namespace Fields

/-- Reads a value as a part of a record. -/
abbrev Reader (α : Type) := Value → Reading α

/-- One issue at the place itself. -/
def issue {α : Type} (message : String) : Reading α := .error [⟨[], message⟩]

/-- The issues of a part, seen from one step further out. -/
def under {α : Type} (step : String) : Reading α → Reading α
  | .ok a => .ok a
  | .error es => .error (es.map (Issue.under step))

/-- Applies a function from one part to another part; the issues of both are reported. -/
def andThen {α β : Type} : Reading (α → β) → Reading α → Reading β
  | .ok f, .ok a => .ok (f a)
  | .ok _, .error es => .error es
  | .error es, .ok _ => .error es
  | .error es, .error es' => .error (es ++ es')

/-- All parts of a list; the issues of all are reported. -/
def all {α : Type} : List (Reading α) → Reading (List α)
  | [] => .ok []
  | r :: rs => andThen (r.map List.cons) (all rs)

/-- A text. -/
def text : Reader String
  | .str s => .ok s
  | .markup s => .ok s
  | .bytes bs =>
    match String.fromUTF8? ⟨bs.toArray⟩ with
    | some s => .ok s
    | none => issue "Input should be a valid string, unable to parse raw data as a unicode string"
  | _ => issue "Input should be a valid string"

/-- A text that is not empty. -/
def someText : Reader String := fun v => do
  let s ← text v
  if s.isEmpty then issue "String should have at least 1 character" else .ok s

/-- The words for truth values, in lower case. -/
def flagWords : List (String × Bool) :=
  [("0", false), ("off", false), ("f", false), ("false", false), ("n", false), ("no", false),
    ("1", true), ("on", true), ("t", true), ("true", true), ("y", true), ("yes", true)]

/-- The report of a text or number that stands for no truth value. -/
def unclearFlag {α : Type} : Reading α :=
  issue "Input should be a valid boolean, unable to interpret input"

/-- The report of a value of a kind that has no truth values. -/
def notFlag {α : Type} : Reading α := issue "Input should be a valid boolean"

/-- The truth value of a word. -/
def wordFlag (s : String) : Reading Bool :=
  match flagWords.lookup (Text.lower s) with
  | some b => .ok b
  | none => unclearFlag

/-- The truth value of an integer. -/
def numberFlag (n : Int) : Reading Bool :=
  if n = 0 then .ok false
  else if n = 1 then .ok true
  else if -(Number.pow2 63 : Int) ≤ n ∧ n < Number.pow2 63 then unclearFlag
  else notFlag

/-- A truth value. -/
def flag : Reader Bool
  | .bool b => .ok b
  | .int n => numberFlag n
  | .float x =>
    match Number.isWhole x, Number.truncate? x with
    | true, some n => numberFlag n
    | _, _ => notFlag
  | .str s => wordFlag s
  | .markup s => wordFlag s
  | .bytes bs =>
    match String.fromUTF8? ⟨bs.toArray⟩ with
    | some s => wordFlag s
    | none => unclearFlag
  | _ => notFlag

/-- A value that may be null. -/
def optional {α : Type} (read : Reader α) : Reader (Option α)
  | .null => .ok none
  | v => (read v).map some

/-- One of some texts. -/
def choice {α : Type} (message : String) (choices : List (String × α)) : Reader α
  | .str s =>
    match choices.lookup s with
    | some a => .ok a
    | none => issue message
  | _ => issue message

/-- Reads the items of a list and reports each issue under the item's position. -/
def items {α : Type} (read : Reader α) (xs : List Value) : Reading (List α) :=
  all (xs.mapIdx fun i x => under (toString i) (read x))

/-- A list of parts. -/
def listOf {α : Type} (read : Reader α) : Reader (List α)
  | .list xs => items read (Value.members xs)
  | .tuple xs => items read xs
  | .set xs => items read xs
  | _ => issue "Input should be a valid list"

/-- A key as a step on the way to an issue: texts as they are, truth values as numbers, all others
in literal form. -/
def keyStep : Value → String
  | .str s => s
  | .bool b => if b then "1" else "0"
  | v => v.literal

/-- A mapping from texts, every value of which is a part. -/
def mapOf {α : Type} (read : Reader α) : Reader (List (String × α))
  | .map es => all ((Entries.members es).map fun (k, v) =>
      under (keyStep k) (andThen ((under "[key]" (text k)).map Prod.mk) (read v)))
  | _ => issue "Input should be a valid dictionary"

/-- Any value. -/
def anything : Reader Value := .ok

/-- A mapping from texts to any values; of keys that come to the same text the last one counts. -/
def openMap : Reader Entries := fun v =>
  (mapOf anything v).map fun ps => Entries.ofPairs (Entries.ofNames ps)

/-- The entries a record is read from. -/
def entriesOf (record : String) : Reader Entries
  | .map es => .ok (Entries.members es)
  | _ => issue ("Input should be a valid dictionary or instance of " ++ record)

/-- A field that has to be there. -/
def required {α : Type} (es : Entries) (name : String) (read : Reader α) : Reading α :=
  under name (match es.get? name with
    | some v => read v
    | none => issue "Field required")

/-- A field that may be left out. -/
def withDefault {α : Type} (es : Entries) (name : String) (default : α) (read : Reader α) :
    Reading α :=
  match es.get? name with
  | some v => under name (read v)
  | none => .ok default

/-- A field that may be null or left out. -/
def maybe {α : Type} (es : Entries) (name : String) (read : Reader α) : Reading (Option α) :=
  withDefault es name none (optional read)

/-- A reading succeeds exactly when both of its parts do. -/
theorem andThen_eq_ok_iff {α β : Type} (f : Reading (α → β)) (a : Reading α) (b : β) :
    andThen f a = .ok b ↔ ∃ g x, f = .ok g ∧ a = .ok x ∧ g x = b := by
  cases f <;> cases a <;> simp [andThen]

end Fields

end SlidePress
