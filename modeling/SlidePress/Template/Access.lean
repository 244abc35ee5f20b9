import SlidePress.Calendar
import SlidePress.Template.Store
import SlidePress.Template.TextMethod

/-! # The parts of values

What an expression finds behind a point or in brackets: the entries of mappings, the items of
sequences, the fields of records, the state of loops, and the operations of texts, sequences,
mappings, days and helper objects. A part that is not there is undefined; whether an undefined value
has parts itself is the dialect's choice.

* `namedPart`, `itemPart`, `stretchOf`: the three ways to a part.
* `callOperation`: calls an operation of a value. -/

namespace SlidePress.Template

/-- The helper objects that a caller supplies. -/
structure Host (σ : Type) where
  /-- The operations of a helper object. -/
  operations : String → List String
  /-- Calls an operation of a helper object. -/
  call : String → String → Arguments → σ → Attempt (Value × σ)

namespace Loop

/-- The item a number of places after the current one. -/
def itemAt (l : Loop) (i : Int) : Value :=
  if 0 ≤ i then (l.items[i.toNat]?).getD .undefined else .undefined

/-- A part of the state of a loop. -/
def part? (l : Loop) (name : String) : Option Value :=
  let n := l.items.length
  let i := l.position
  let number (k : Nat) : Option Value := some (.int k)
  match name with
  | "index" => number (i + 1)
  | "index0" => number i
  | "first" => some (.bool (i == 0))
  | "last" => some (.bool (i + 1 == n))
  | "length" => number n
  | "revindex" => number (n - i)
  | "revindex0" => number (n - i - 1)
  | "depth" => number (l.depth + 1)
  | "depth0" => number l.depth
  | "previtem" => some (l.itemAt (i - 1))
  | "nextitem" => some (l.itemAt (i + 1))
  | _ => none

/-- The operations of a loop. -/
def operations : List String := [ "cycle", "changed"]

end Loop

/-- A day as the beginning of that day. -/
def midnight (d : Date) : Timestamp := ⟨d, 0, 0, 0, 0, none⟩

/-- The parts of a day. -/
def datePart? (d : Date) : String → Option Value
  | "year" => some (.int d.year)
  | "month" => some (.int d.month)
  | "day" => some (.int d.day)
  | _ => none

/-- The parts of a point in time. -/
def timePart? (t : Timestamp) : String → Option Value
  | "hour" => some (.int t.hour)
  | "minute" => some (.int t.minute)
  | "second" => some (.int t.second)
  | "microsecond" => some (.int t.microsecond)
  | name => datePart? t.date name

/-- The operations of a day. -/
def dateOperations : List String :=
  [ "isoformat", "strftime", "weekday", "isoweekday", "toordinal"]

/-- The operations of a mapping. -/
def mapOperations : List String := [ "get", "items", "keys", "values", "copy"]

/-- The operations of a sequence. -/
def sequenceOperations : List String := [ "index", "count", "copy"]

/-- The parts of an integer. -/
def intPart? (n : Int) : String → Option Value
  | "real" => some (.int n)
  | "numerator" => some (.int n)
  | "imag" => some (.int 0)
  | "denominator" => some (.int 1)
  | _ => none

/-- The operations of a value that is not a helper object, a record or a loop. -/
def operationsOf : Value → List String
  | .str _ => TextMethod.names
  | .markup _ => TextMethod.names
  | .map _ => mapOperations
  | .list _ => sequenceOperations
  | .tuple _ => sequenceOperations.take 2
  | .date _ => dateOperations
  | .timestamp _ => "date" :: dateOperations
  | .float _ => [ "is_integer"]
  | .int _ => [ "bit_length"]
  | _ => []

/-- The parts of a value that is not a helper object, a record or a loop, operations apart. -/
def partOf? (name : String) : Value → Option Value
  | .date d => datePart? d name
  | .timestamp t => timePart? t name
  | .int n => intPart? n name
  | .bool b => intPart? (if b then 1 else 0) name
  | _ => none

variable {σ : Type}

/-- A part of a value that does not depend on entries or items. -/
def nativePart? (host : Host σ) (v : Value) (name : String) : Run σ (Option Value) := do
  let operation (names : List String) : Option Value :=
    if names.contains name then some (.method v name) else none
  match v with
  | .ref (.helper h) => return operation (host.operations h)
  | .ref (.record id) => return Entries.get? ((← get).records.getD id []) name
  | .ref (.loop id) =>
    match ((← get).loops.getD id default).part? name with
    | some p => return some p
    | none => return operation Loop.operations
  | v =>
    match partOf? name v with
    | some p => return some p
    | none => return operation (operationsOf v)

/-- What a missing part of a value is. -/
def missingPart (d : Dialect) (v : Value) : Attempt Value :=
  match v with
  | .undefined => if d.chained then .ok .undefined else .error .undefinedValue
  | _ => .ok .undefined

/-- The entry of a mapping or the item of a sequence. -/
def itemOf? (v i : Value) : Option Value :=
  match v with
  | .map es => if i.hashable then Entries.find? es i else none
  | v => i.index?.bind fun k => v.at? k

/-- The part of a value with a name. -/
def namedPart (d : Dialect) (host : Host σ) (v : Value) (name : String) : Run σ Value := do
  match v with
  | .map es =>
    if d.keysOnly then return (Entries.get? es name).getD .undefined
    else
      match ← nativePart? host v name with
      | some p => return p
      | none => return (Entries.get? es name).getD .undefined
  | v =>
    match ← nativePart? host v name with
    | some p => return p
    | none => Run.ofAttempt (missingPart d v)

/-- The part of a value at a position or key; a name may also be that of an operation. -/
def itemPart (d : Dialect) (host : Host σ) (v i : Value) : Run σ Value := do
  match itemOf? v i with
  | some p => return p
  | none =>
    match v, i.text? with
    | .undefined, _ => Run.ofAttempt (missingPart d v)
    | v, some name => return (← nativePart? host v name).getD .undefined
    | _, none => return .undefined

/-- A stretch of a sequence. -/
def stretchOf (d : Dialect) (v start stop step : Value) : Attempt Value :=
  match v with
  | .undefined => missingPart d v
  | v => v.stretch start stop step

/-! ### Operations -/

/-- Calls an operation of a mapping. -/
def callMap (es : Entries) (name : String) (a : Arguments) : Attempt Value := do
  match name with
  | "get" =>
    let vs ← a.plain 1 2
    let k := vs.headD .null
    if k.hashable then return (Entries.find? es k).getD (vs.getD 1 .null) else throw .wrongType
  | name =>
    let _ ← a.plain 0 0
    match name with
    | "items" => return .list (es.map fun e => .tuple [e.1, e.2])
    | "keys" => return .list (es.map Prod.fst)
    | "values" => return .list (es.map Prod.snd)
    | _ => return .map es

/-- Calls an operation of a sequence. -/
def callSequence (v : Value) (xs : List Value) (name : String) (a : Arguments) : Attempt Value := do
  match name with
  | "copy" =>
    let _ ← a.plain 0 0
    return v
  | "count" =>
    let x := (← a.plain 1 1).headD .null
    return .int (xs.filter fun y => x.same y).length
  | _ =>
    let x := (← a.plain 1 1).headD .null
    match xs.findIdx? fun y => x.same y with
    | some k => return .int k
    | none => throw .badValue

/-- Calls an operation of a point in time; a day is one without a time of day. -/
def callTime (t : Timestamp) (isDay : Bool) (name : String) (a : Arguments) : Attempt Value := do
  match name with
  | "isoformat" =>
    if isDay then
      let _ ← a.plain 0 0
      return .str t.date.iso
    else
      let vs ← a.bind [ "sep"] 0
      let sep ← TextMethod.chars ((vs.getD 0 none).getD (.str "T"))
      if sep.length = 1 then return .str (t.iso (String.ofList sep)) else throw .wrongType
  | "strftime" =>
    let vs ← a.bind [ "format"] 1
    let pattern ← TextMethod.chars ((vs.getD 0 none).getD .null)
    return .str (String.ofList (Calendar.format t pattern))
  | name =>
    let _ ← a.plain 0 0
    match name with
    | "weekday" => return .int t.date.weekday
    | "isoweekday" => return .int (t.date.weekday + 1)
    | "toordinal" => return .int t.date.ordinal
    | _ => return .date t.date

/-- Calls an operation of a value that does not depend on the state. -/
def callPlain (v : Value) (name : String) (a : Arguments) : Attempt Value := do
  match v with
  | .str s => TextMethod.call name s a
  | .markup s => TextMethod.callMarkup name s a
  | .map es => callMap es name a
  | .list xs => callSequence v xs name a
  | .tuple xs => callSequence v xs name a
  | .date d => callTime (midnight d) true name a
  | .timestamp t => callTime t false name a
  | .float x =>
    let _ ← a.plain 0 0
    return .bool (Number.isWhole x)
  | .int n =>
    let _ ← a.plain 0 0
    return .int (if n = 0 then 0 else Nat.log2 n.natAbs + 1)
  | _ => throw .wrongType

/-- Calls an operation of a loop: the argument whose turn it is, or whether the arguments differ
from those of the last call. -/
def callLoop (id : Nat) (name : String) (a : Arguments) : Run σ Value := do
  let l := (← get).loops.getD id default
  if !a.named.isEmpty then throw .wrongType
  else if name == "cycle" then
    match a.positional with
    | [] => throw .wrongType
    | vs => return vs.getD (l.position % vs.length) .undefined
  else
    let same := match l.seen with
      | some vs => Value.sameList vs a.positional
      | none => false
    if same then return .bool false
    else
      Run.setLoop id { l with seen := some a.positional }
      return .bool true

/-- Calls an operation of a value. -/
def callOperation (host : Host σ) (v : Value) (name : String) (a : Arguments) : Run σ Value := do
  match v with
  | .ref (.helper h) => fun s => do
    let (x, host') ← host.call h name a s.host
    return (x, { s with host := host' })
  | .ref (.loop id) => callLoop id name a
  | .str _ =>
    if name == "join" then
      let vs ← Run.ofAttempt (a.plain 1 1)
      let items ← Run.iterate (vs.headD .null)
      Run.ofAttempt (callPlain v name ⟨[.list items], []⟩)
    else Run.ofAttempt (callPlain v name a)
  | v => Run.ofAttempt (callPlain v name a)

/-- With keys alone as parts, a mapping's part with a name is the entry there. -/
theorem namedPart_map (d : Dialect) (host : Host σ) (es : Entries) (name : String) (s : Store σ)
    (h : d.keysOnly = true) :
    namedPart d host (.map es) name s = .ok ((Entries.get? es name).getD .undefined, s) := by
  simp only [namedPart, h, if_true]
  rfl

end SlidePress.Template
