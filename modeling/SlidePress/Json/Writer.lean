import SlidePress.Number.Shortest
import SlidePress.Text.Quoted
import SlidePress.Value.Order

/-! # Writing JSON

The JSON text of a value in the first 128 characters, with the keys of every mapping in order. Only
what JSON knows can be written: null, truth values, numbers, texts, sequences, and mappings from
any of the simple kinds.

* `Json.write`: the text of a value, on one line or indented. -/

namespace SlidePress.Json

/-- A code unit of sixteen bits as an escape. -/
def unitEscape (n : Nat) : List Char := '\\' :: 'u' :: Text.hexDigits 4 n

/-- A character inside a text. -/
def escapeChar (c : Char) : List Char :=
  let n := c.toNat
  if c = '"' then ['\\', '"']
  else if c = '\\' then ['\\', '\\']
  else if c = '\n' then ['\\', 'n']
  else if c = '\r' then ['\\', 'r']
  else if c = '\t' then ['\\', 't']
  else if c = '\x0c' then ['\\', 'f']
  else if c = '\x08' then ['\\', 'b']
  else if 32 ≤ n ∧ n < 127 then [c]
  else if n < 0x10000 then unitEscape n
  else
    let k := n - 0x10000
    unitEscape (0xD800 + k / 1024) ++ unitEscape (0xDC00 + k % 1024)

/-- A text in quotes. -/
def writeText (s : String) : String := String.ofList ('"' :: s.toList.flatMap escapeChar ++ ['"'])

/-- A double; the values that JSON does not know have names. -/
def writeFloat (x : Float) : String :=
  if x.isNaN then "NaN"
  else if x.isInf then (if x < 0 then "-Infinity" else "Infinity")
  else Number.text x

/-- The text of a key. -/
def keyText : Value → Attempt String
  | .str s => .ok s
  | .markup s => .ok s
  | .bool b => .ok (if b then "true" else "false")
  | .int n => .ok (toString n)
  | .float x => .ok (writeFloat x)
  | .null => .ok "null"
  | _ => .error .wrongType

/-- Items between brackets, on lines of their own if there is an indent. -/
def between (opening closing : String) (indent : Option String) (depth : Nat)
    (items : List String) : String :=
  match indent with
  | none => opening ++ ", ".intercalate items ++ closing
  | some unit =>
    let lineAt (n : Nat) : String := "\n" ++ String.join (List.replicate n unit)
    opening ++ lineAt (depth + 1) ++ (("," ++ lineAt (depth + 1)).intercalate items) ++
      lineAt depth ++ closing

mutual

/-- The text of a value at a depth. -/
def writeAt (indent : Option String) (depth : Nat) : Value → Attempt String
  | .null => .ok "null"
  | .bool b => .ok (if b then "true" else "false")
  | .int n => .ok (toString n)
  | .float x => .ok (writeFloat x)
  | .str s => .ok (writeText s)
  | .markup s => .ok (writeText s)
  | .list xs => do
    if xs.isEmpty then return "[]"
    else return between "[" "]" indent depth (← writeItems indent (depth + 1) xs)
  | .tuple xs => do
    if xs.isEmpty then return "[]"
    else return between "[" "]" indent depth (← writeItems indent (depth + 1) xs)
  | .map es => do
    if es.isEmpty then return "\x7b\x7d"
    else
      let entries ← writeEntries indent (depth + 1) es
      let sorted ← Value.sortOn entries
      return between "\x7b" "\x7d" indent depth (← sorted.mapM id)
  | .again _ _ => .error .badValue
  | _ => .error .wrongType
termination_by structural v => v

/-- The texts of the items of a list. -/
def writeItems (indent : Option String) (depth : Nat) : List Value → Attempt (List String)
  | [] => .ok []
  | v :: vs => do
    let s ← writeAt indent depth v
    return s :: (← writeItems indent depth vs)
termination_by structural vs => vs

/-- The texts of the entries of a mapping beside their keys. -/
def writeEntries (indent : Option String) (depth : Nat) :
    List (Value × Value) → Attempt (List (Value × Attempt String))
  | [] => .ok []
  | (k, v) :: es => do
    let text : Attempt String := do
      let name ← keyText k
      return writeText name ++ ": " ++ (← writeAt indent depth v)
    return (k, text) :: (← writeEntries indent depth es)
termination_by structural es => es

end

/-- The text of a value, on one line or with an indent for every depth. -/
def write (indent : Option String) (v : Value) : Attempt String := writeAt indent 0 v

end SlidePress.Json
