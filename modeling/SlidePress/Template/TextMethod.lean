import SlidePress.Number.Read
import SlidePress.Template.Arguments
import SlidePress.Text.Case
import SlidePress.Text.Printable
import SlidePress.Text.Split

/-! # Operations of texts

The operations that an expression can call on a text: changes of case, stripping, searching,
replacing, splitting, joining, filling up, and questions about the characters.

* `TextMethod.names`: the operations there are.
* `TextMethod.call`: calls one. -/

namespace SlidePress.Template.TextMethod

open SlidePress.Text

/-- The questions about a text, each true of no empty text unless it says so. -/
def questions : List (String × (List Char → Bool)) :=
  let every (p : Char → Bool) (cs : List Char) : Bool := !cs.isEmpty && cs.all p
  [("isdigit", every isOrdinal), ("isdecimal", every isDecimal), ("isnumeric", every isNumeric),
    ("isalpha", every isLetter), ("isalnum", every isAlnum), ("isspace", every isBlank),
    ("isascii", fun cs => cs.all fun c => c.toNat < 128),
    ("isprintable", fun cs => cs.all isPrintable),
    ("isupper", fun cs => cs.any isUpperChar && !cs.any isLowerChar),
    ("islower", fun cs => cs.any isLowerChar && !cs.any isUpperChar)]

/-- The changes of a text that need nothing else. -/
def changes : List (String × (List Char → List Char)) :=
  [("upper", upperChars), ("lower", lowerChars), ("capitalize", capitalizeChars),
    ("title", titleFrom false), ("swapcase", fun cs => cs.flatMap swapChar),
    ("casefold", lowerChars)]

/-- The other operations. -/
def others : List String :=
  [ "strip", "lstrip", "rstrip", "startswith", "endswith", "find", "rfind", "index", "rindex",
    "count", "replace", "split", "rsplit", "splitlines", "partition", "rpartition", "join", "zfill",
    "center", "ljust", "rjust", "removeprefix", "removesuffix"]

/-- The operations of a text. -/
def names : List String := questions.map Prod.fst ++ changes.map Prod.fst ++ others

/-- A text argument. -/
def chars : Value → Attempt (List Char)
  | .str s => .ok s.toList
  | .markup s => .ok s.toList
  | _ => .error .wrongType

/-- An integer argument. -/
def whole (v : Value) : Attempt Int := Attempt.ofOption .wrongType v.index?

/-- A text as a value. -/
def value (cs : List Char) : Value := .str (String.ofList cs)

/-- Texts as a list. -/
def values (css : List (List Char)) : Value := .list (css.map value)

/-- The part of a text between two positions, and where it begins; none if it begins behind the
end. -/
def window (cs : List Char) (bounds : List Value) : Attempt (Option (List Char × Nat)) := do
  let start ← Value.boundOf? (bounds.getD 0 .null)
  let stop ← Value.boundOf? (bounds.getD 1 .null)
  let place (i : Int) : Int := if i < 0 then max (i + cs.length) 0 else i
  let a := place (start.getD 0)
  let b := min (place (stop.getD cs.length)) cs.length
  if (cs.length : Int) < a ∨ b < a then return none
  else return some ((cs.drop a.toNat).take (b - a).toNat, a.toNat)

/-- Whether a text begins or ends with one of some pieces. -/
def bordersOn (test : List Char → List Char → Bool) (cs : List Char) (vs : List Value) :
    Attempt Value := do
  let pieces ← match vs.head? with
    | some (.tuple ps) => ps.mapM chars
    | some v => do pure [← chars v]
    | none => throw .wrongType
  match ← window cs vs.tail with
  | some (part, _) => return .bool (pieces.any fun p => test p part)
  | none => return .bool false

/-- The position of a piece in a text, -1 if it does not occur. -/
def position (search : List Char → List Char → Option Nat) (cs : List Char) (vs : List Value) :
    Attempt Int := do
  let piece ← chars (vs.headD .null)
  match ← window cs vs.tail with
  | some (part, start) =>
    match search piece part with
    | some k => return (start + k : Nat)
    | none => return -1
  | none => return -1

/-- A position that has to be there. -/
def found (i : Int) : Attempt Value := if i < 0 then .error .badValue else .ok (.int i)

/-- The characters to strip: those of a text, or the blanks. -/
def stripSet : List Value → Attempt (Char → Bool)
  | [] => .ok isBlank
  | .null :: _ => .ok isBlank
  | v :: _ => do
    let cs ← chars v
    return fun c => cs.contains c

/-- A limit on the number of cuts; a negative one is none. -/
def limitOf (cs : List Char) (v : Option Value) : Attempt Nat := do
  let n ← whole (v.getD (.int (-1)))
  return if n < 0 then cs.length + 1 else n.toNat

/-- The pieces of a text, cut from the left or from the right. -/
def pieces (right : Bool) (cs : List Char) (a : Arguments) : Attempt Value := do
  let vs ← a.bind [ "sep", "maxsplit"] 0
  let limit ← limitOf cs (vs.getD 1 none)
  match (vs.getD 0 none).getD .null with
  | .null => return values (if right then fromRight (wordsUpTo limit) cs else wordsUpTo limit cs)
  | v =>
    let sep ← chars v
    if sep.isEmpty then throw .badValue
    else
      return values (if right then fromRight (splitUpTo limit sep.reverse) cs
        else splitUpTo limit sep cs)

/-- The text before and after a separator, with the separator between. -/
def parted (right : Bool) (cs : List Char) (v : Value) : Attempt Value := do
  let sep ← chars v
  if sep.isEmpty then throw .badValue
  else
    let at? := if right then findLast? sep cs else find? sep cs
    match at? with
    | some k => return .tuple [value (cs.take k), value sep, value (cs.drop (k + sep.length))]
    | none =>
      return .tuple (if right then [value [], value [], value cs]
        else [value cs, value [], value []])

/-- A text filled up to a width: the fill to its left and to its right. -/
def padding (name : String) (gap width : Nat) (c : Char) : List Char × List Char :=
  let fill (n : Nat) : List Char := List.replicate n c
  match name with
  | "ljust" => ([], fill gap)
  | "rjust" => (fill gap, [])
  | _ =>
    let left := gap / 2 + (if gap % 2 = 1 ∧ width % 2 = 1 then 1 else 0)
    (fill left, fill (gap - left))

/-- A number text filled up with zeros behind its sign. -/
def zeroFilled (cs : List Char) (width : Nat) : List Char :=
  let zeros := List.replicate (width - cs.length) '0'
  match cs with
  | '+' :: r => '+' :: zeros ++ r
  | '-' :: r => '-' :: zeros ++ r
  | cs => zeros ++ cs

/-- Calls one of the other operations. -/
def callOther (name : String) (cs : List Char) (a : Arguments) : Attempt Value := do
  match name with
  | "strip" => return value (stripBy (← stripSet (← a.plain 0 1)) cs)
  | "lstrip" => return value (stripLeftBy (← stripSet (← a.plain 0 1)) cs)
  | "rstrip" => return value (stripRightBy (← stripSet (← a.plain 0 1)) cs)
  | "startswith" => bordersOn startsWith cs (← a.plain 1 3)
  | "endswith" => bordersOn endsWith cs (← a.plain 1 3)
  | "find" => return .int (← position find? cs (← a.plain 1 3))
  | "rfind" => return .int (← position findLast? cs (← a.plain 1 3))
  | "index" => found (← position find? cs (← a.plain 1 3))
  | "rindex" => found (← position findLast? cs (← a.plain 1 3))
  | "count" =>
    let vs ← a.plain 1 3
    let piece ← chars (vs.headD .null)
    match ← window cs vs.tail with
    | some (part, _) => return .int (countOf piece part)
    | none => return .int 0
  | "replace" =>
    let vs ← a.bind [ "old", "new", "count"] 2
    let old ← chars ((vs.getD 0 none).getD .null)
    let new ← chars ((vs.getD 1 none).getD .null)
    return value (replaceUpTo (← limitOf cs (vs.getD 2 none)) old new cs)
  | "split" => pieces false cs a
  | "rsplit" => pieces true cs a
  | "splitlines" =>
    let vs ← a.bind [ "keepends"] 0
    return values (splitLines ((vs.getD 0 none).getD (.bool false)).truthy cs)
  | "partition" => parted false cs ((← a.plain 1 1).headD .null)
  | "rpartition" => parted true cs ((← a.plain 1 1).headD .null)
  | "join" =>
    let items ← Attempt.ofOption .wrongType (((← a.plain 1 1).headD .null).items?)
    return value (joinWith cs (← items.mapM chars))
  | "zfill" =>
    let n ← whole ((← a.plain 1 1).headD .null)
    return value (zeroFilled cs n.toNat)
  | "removeprefix" =>
    let piece ← chars ((← a.plain 1 1).headD .null)
    return value ((after? piece cs).getD cs)
  | "removesuffix" =>
    let piece ← chars ((← a.plain 1 1).headD .null)
    return value (if endsWith piece cs then cs.take (cs.length - piece.length) else cs)
  | name =>
    let vs ← a.plain 1 2
    let width := (← whole (vs.headD .null)).toNat
    let c ← match vs.tail with
      | [] => pure ' '
      | v :: _ =>
        match ← chars v with
        | [c] => pure c
        | _ => throw .wrongType
    let (left, right) := padding name (width - cs.length) width c
    return value (left ++ cs ++ right)

/-- Calls an operation of a text. -/
def call (name : String) (s : String) (a : Arguments) : Attempt Value := do
  let cs := s.toList
  match questions.lookup name with
  | some p => do
    let _ ← a.plain 0 0
    return .bool (p cs)
  | none =>
    match changes.lookup name with
    | some f => do
      let _ ← a.plain 0 0
      return value (f cs)
    | none => callOther name cs a

/-- Calls an operation of a text on marked-up text: texts it is given are escaped, and a text it
gives is marked up. -/
def callMarkup (name : String) (s : String) (a : Arguments) : Attempt Value := do
  let guarded (v : Value) : Value := match v with
    | .str s => .str (Value.escapeText s)
    | v => v
  let marked (v : Value) : Value := match v with
    | .str s => .markup s
    | v => v
  let v ← call name s ⟨a.positional.map guarded, a.named.map fun p => (p.1, guarded p.2)⟩
  match v with
  | .str s => return .markup s
  | .list xs => return .list (xs.map marked)
  | .tuple xs => return .tuple (xs.map marked)
  | v => return v

end SlidePress.Template.TextMethod
