import SlidePress.Number.Shortest
import SlidePress.Text.Quoted
import SlidePress.Value.Basic

/-! # The text of a value

A value has two texts: its plain text, which for a text is the text itself, and its literal form,
in which texts are quoted. Inside lists, sets and mappings the literal form is used.

* `Value.literal`: the literal form.
* `Value.text`: the plain text. -/

namespace SlidePress.Value

/-- The literal form of an offset from universal time. -/
def offsetLiteral (o : Int) : String :=
  if o = 0 then "datetime.timezone.utc"
  else
    let days := o.fdiv 86400
    let seconds := o.fmod 86400
    let parts := (if days = 0 then [] else ["days=" ++ toString days]) ++
      (if seconds = 0 then [] else ["seconds=" ++ toString seconds])
    "datetime.timezone(datetime.timedelta(" ++ ", ".intercalate parts ++ "))"

/-- The literal form of a point in time: trailing parts that are zero are left out. -/
def timestampLiteral (t : Timestamp) : String :=
  let parts := [t.date.year, t.date.month, t.date.day, t.hour, t.minute] ++
    (if t.microsecond ≠ 0 then [t.second, t.microsecond]
     else if t.second ≠ 0 then [t.second] else [])
  let zone := match t.offset with
    | some o => [ "tzinfo=" ++ offsetLiteral o]
    | none => []
  "datetime.datetime(" ++ ", ".intercalate (parts.map toString ++ zone) ++ ")"

/-- The literal form of a day. -/
def dateLiteral (d : Date) : String :=
  "datetime.date(" ++ ", ".intercalate ([d.year, d.month, d.day].map toString) ++ ")"

/-- Items between brackets. -/
def bracketed (opening closing : String) (items : List String) : String :=
  opening ++ ", ".intercalate items ++ closing

/-- An object that has no literal form of its own. -/
def refLiteral : Ref → String
  | .helper name => "<" ++ name ++ ">"
  | .builtin name => "<function " ++ name ++ ">"
  | .procedure _ => "<procedure>"
  | .record _ => "<Namespace>"
  | .loop _ => "<LoopContext>"
  | .stream _ => "<generator object>"

mutual

/-- The literal form of a value. -/
def literal : Value → String
  | null => "None"
  | bool b => if b then "True" else "False"
  | int n => toString n
  | float x => Number.text x
  | str s => Text.quoted s
  | markup s => "Markup(" ++ Text.quoted s ++ ")"
  | bytes bs => Text.quotedBytes bs
  | date d => dateLiteral d
  | timestamp t => timestampLiteral t
  | list xs => bracketed "[" "]" (literals xs)
  | tuple xs =>
    match xs with
    | [x] => "(" ++ literal x ++ ",)"
    | xs => bracketed "(" ")" (literals xs)
  | set xs => if xs.isEmpty then "set()" else bracketed "\x7b" "\x7d" (literals xs)
  | map es => bracketed "\x7b" "\x7d" (entryLiterals es)
  | range a b c =>
    "range(" ++ toString a ++ ", " ++ toString b ++
      (if c = 1 then ")" else ", " ++ toString c ++ ")")
  | again _ isMap => if isMap then "\x7b...\x7d" else "[...]"
  | undefined => "Undefined"
  | method _ name => "<method " ++ name ++ ">"
  | ref r => refLiteral r
termination_by structural v => v

/-- The literal forms of the elements of a list. -/
def literals : List Value → List String
  | [] => []
  | x :: xs => literal x :: literals xs
termination_by structural v => v

/-- The literal forms of the entries of a mapping. -/
def entryLiterals : List (Value × Value) → List String
  | [] => []
  | (k, v) :: es => (literal k ++ ": " ++ literal v) :: entryLiterals es
termination_by structural v => v

end

/-- The plain text of a value. -/
def text : Value → String
  | str s => s
  | markup s => s
  | date d => d.iso
  | timestamp t => t.iso " "
  | undefined => ""
  | v => v.literal

/-- The word for the kind of a value in a message about data. -/
def kindWord : Value → String
  | null => "null"
  | bool _ => "boolean"
  | int _ => "number"
  | float _ => "number"
  | str _ => "string"
  | markup _ => "string"
  | bytes _ => "bytes"
  | date _ => "date"
  | timestamp _ => "datetime"
  | list _ => "array"
  | tuple _ => "tuple"
  | set _ => "set"
  | map _ => "object"
  | range _ _ _ => "range"
  | again _ isMap => if isMap then "object" else "array"
  | undefined => "Undefined"
  | method _ _ => "method"
  | ref _ => "object"

@[simp] theorem text_str (s : String) : (str s).text = s := rfl

@[simp] theorem length_literals (xs : List Value) : (literals xs).length = xs.length := by
  induction xs with
  | nil => rfl
  | cons x xs ih => simp [literals, ih]

end SlidePress.Value
