import SlidePress.Json.Writer
import SlidePress.Template.Test

/-! # Filters

The functions that an expression can send a value through behind a bar: defaults, changes of text,
numbers, orders and selections of sequences, and other written forms.

A selection gives a sequence that can be gone through once. What goes wrong with one of its items
goes wrong when that item is reached.

* `Filter.names`: the filters there are.
* `Filter.apply`: sends a value through one. -/

namespace SlidePress.Template.Filter

open SlidePress.Text

variable {σ : Type}

/-- A parameter's value, or a default. -/
def param (vs : List (Option Value)) (i : Nat) (default : Value) : Value :=
  (vs.getD i none).getD default

/-! ### Texts -/

/-- The same change to the plain text of a value or to marked-up text. -/
def mapText (f : List Char → List Char) : Value → Value
  | .markup s => .markup (String.ofList (f s.toList))
  | v => .str (String.ofList (f v.text.toList))

/-- A character at which a word of a title may begin. -/
def breaksTitle (c : Char) : Bool := isBlank c || [ '-', '(', '\x7b', '[', '<'].contains c

/-- Every word with a capital at its beginning and small letters after it. -/
def titleWords : Nat → List Char → List Char
  | 0, cs => cs
  | n + 1, cs =>
    match cs with
    | [] => []
    | c :: _ =>
      let kind := breaksTitle c
      let run := cs.takeWhile fun c => breaksTitle c == kind
      let written := upperChars (run.take 1) ++ lowerChars (run.drop 1)
      written ++ titleWords n (cs.drop run.length)

/-- The number of maximal runs of word characters; `inside` tells whether the text before ends in
one. -/
def countWords (inside : Bool) : List Char → Nat
  | [] => 0
  | c :: r => (if isWord c && !inside then 1 else 0) + countWords (isWord c) r

/-- The indent that a parameter stands for. -/
def indentOf : Value → Attempt (List Char)
  | .str s => .ok s.toList
  | .markup s => .ok s.toList
  | v => do return List.replicate (← TextMethod.whole v).toNat ' '

/-- A text with its lines indented: the first one only if asked, empty ones only if asked. -/
def indented (unit : List Char) (first blank : Bool) (cs : List Char) : List Char :=
  let lines := splitLines false (cs ++ ['\n'])
  let body := lines.tail.map fun l => if blank || !l.isEmpty then unit ++ l else l
  (if first then unit else []) ++ joinWith ['\n'] (lines.headD [] :: body)

/-- The filter that indents. -/
def indent (v : Value) (a : Arguments) : Attempt Value := do
  let vs ← a.bind [ "width", "first", "blank"] 0
  let unit ← indentOf (param vs 0 (.int 4))
  let f := indented unit (param vs 1 .null).truthy (param vs 2 .null).truthy
  match v with
  | .str _ => return mapText f v
  | .markup _ => return mapText f v
  | .undefined => throw .undefinedValue
  | .list _ => throw .noAttribute
  | _ => throw .wrongType

/-- A text cut to a length that its ending counts towards: anywhere, or where a word ends. -/
def cutTo (length : Nat) (anywhere : Bool) (ending : List Char) (cs : List Char) : List Char :=
  let front := cs.take (length - ending.length)
  if anywhere then front
  else
    match findLast? [' '] front with
    | some k => front.take k
    | none => front

/-- The filter that shortens. -/
def truncate (v : Value) (a : Arguments) : Attempt Value := do
  let vs ← a.bind [ "length", "killwords", "end", "leeway"] 0
  let length ← TextMethod.whole (param vs 0 (.int 255))
  let ending ← TextMethod.chars (param vs 2 (.str "..."))
  let leeway ← match param vs 3 .null with
    | .null => pure 5
    | v => TextMethod.whole v
  if length < ending.length ∨ leeway < 0 then throw .brokenRequirement
  else
    let size ← Attempt.ofOption .wrongType v.size?
    if (size : Int) ≤ length + leeway then return v
    else if !v.isText then throw .wrongType
    else
      let front := mapText (cutTo length.toNat (param vs 1 .null).truthy ending) v
      Value.add front (param vs 2 (.str "..."))

/-- The filter that replaces pieces of a text. -/
def replaceText (v : Value) (a : Arguments) : Attempt Value := do
  let vs ← a.bind [ "old", "new", "count"] 2
  let cs := v.text.toList
  let limit ← match param vs 2 .null with
    | .null => pure (cs.length + 1)
    | n => TextMethod.limitOf cs (some n)
  let old := (param vs 0 .null).text.toList
  let new := (param vs 1 .null).text.toList
  return .str (String.ofList (replaceUpTo limit old new cs))

/-- The characters that JSON text must not hold inside markup. -/
def guardMarkup (c : Char) : List Char :=
  if [ '<', '>', '&', '\''].contains c then Json.unitEscape c.toNat else [c]

/-- The filter that writes JSON. -/
def toJson (v : Value) (a : Arguments) : Attempt Value := do
  let vs ← a.bind [ "indent"] 0
  let unit ← match param vs 0 .null with
    | .null => pure none
    | w => do pure (some (String.ofList (← indentOf w)))
  let s ← Json.write unit v
  return .markup (String.ofList (s.toList.flatMap guardMarkup))

/-! ### Numbers -/

/-- The integer that a value stands for, or a default. -/
def toInt (v : Value) (a : Arguments) : Attempt Value := do
  let vs ← a.bind [ "default", "base"] 0
  let default := param vs 0 (.int 0)
  let base ← TextMethod.whole (param vs 1 (.int 10))
  match v with
  | .undefined => throw .undefinedValue
  | .float x =>
    if x.isInf then throw .overflow
    else return ((Number.truncate? x).map Value.int).getD default
  | v =>
    match v.numeric?, v.text? with
    | some (.int n), _ => return .int n
    | _, some s =>
      let direct := if 2 ≤ base ∧ base ≤ 36 then Number.readInt base.toNat s.toList else none
      match direct with
      | some n => return .int n
      | none => return (((Number.readFloat s.toList).bind Number.truncate?).map Value.int).getD default
    | _, none => return default

/-- The double that a value stands for, or a default. -/
def toFloat (v : Value) (a : Arguments) : Attempt Value := do
  let vs ← a.bind [ "default"] 0
  let default := param vs 0 (.float 0)
  match v with
  | .undefined => throw .undefinedValue
  | v =>
    match v.text? with
    | some s => return ((Number.readFloat s.toList).map Value.float).getD default
    | none => if v.numeric?.isSome then return .float (← Value.doubleOf v) else return default

/-- A number rounded to a number of places. -/
def roundNearest (v : Value) (places : Int) : Attempt Value :=
  match v.numeric? with
  | some (.int n) =>
    .ok (.int (if places < 0 then Number.roundTens (-places).toNat n else n))
  | some (.float x) => do
    return .float (← Attempt.ofOption .overflow (Number.roundPlaces? places x))
  | none => .error .wrongType

/-- The next integer above or below a number. -/
def nextWhole (above : Bool) (v : Value) : Attempt Value :=
  match v.numeric? with
  | some (.int n) => .ok (.int n)
  | some (.float x) =>
    if x.isNaN then .error .badValue
    else do
      let n ← Attempt.ofOption .overflow (if above then Number.ceiling? x else Number.floor? x)
      return .int n
  | none => .error .wrongType

/-- The filter that rounds. -/
def round (v : Value) (a : Arguments) : Attempt Value := do
  let vs ← a.bind [ "precision", "method"] 0
  let places := param vs 0 (.int 0)
  let method := (param vs 1 (.str "common")).text
  if method == "common" then roundNearest v (← TextMethod.whole places)
  else if method == "ceil" || method == "floor" then
    let unit ← Value.pow (.int 10) places
    let scaled ← Value.mul v unit
    Value.div (← nextWhole (method == "ceil") scaled) unit
  else throw .badArgument

/-- The size of a number. -/
def magnitude (v : Value) : Attempt Value :=
  match v.numeric? with
  | some (.int n) => .ok (.int n.natAbs)
  | some (.float x) => .ok (.float x.abs)
  | none => .error .wrongType

/-! ### Values as they are -/

/-- The filter that replaces what is undefined, and where asked also what counts as false. -/
def orDefault (d : Dialect) (v : Value) (a : Arguments) : Attempt Value := do
  let vs ← a.bind [ "default_value", "boolean"] 0
  let default := param vs 0 (.str "")
  let replaced := match v with
    | .undefined => true
    | .null => d.nullIsBlank || (param vs 1 .null).truthy
    | v => (param vs 1 .null).truthy && !v.truthy
  return if replaced then default else v

/-- Filters without a parameter that change a text or look at a single value. -/
def simple : List (String × (Value → Attempt Value)) :=
  [("escape", fun v => .ok v.escaped), ("e", fun v => .ok v.escaped),
    ("forceescape", fun v => .ok (.markup (Value.escapeText v.text))),
    ("safe", fun v => .ok (.markup v.text)),
    ("upper", fun v => .ok (mapText upperChars v)), ("lower", fun v => .ok (mapText lowerChars v)),
    ("capitalize", fun v => .ok (mapText capitalizeChars v)),
    ("title", fun v => .ok (.str (String.ofList (titleWords v.text.length v.text.toList)))),
    ("wordcount", fun v => .ok (.int (countWords false v.text.toList))),
    ("string", fun v => .ok (mapText id v)),
    ("length", fun v => do return .int (← Attempt.ofOption .wrongType v.size?)),
    ("count", fun v => do return .int (← Attempt.ofOption .wrongType v.size?)),
    ("abs", magnitude)]

/-- Filters with parameters that need nothing but a value and the arguments. -/
def plain : List (String × (Value → Arguments → Attempt Value)) :=
  [("trim", fun v a => do
      let vs ← a.bind [ "chars"] 0
      let p ← TextMethod.stripSet [param vs 0 .null]
      return mapText (stripBy p) v),
    ("center", fun v a => do
      let vs ← a.bind [ "width"] 0
      TextMethod.call "center" v.text ⟨[param vs 0 (.int 80)], []⟩),
    ("format", fun v a =>
      if a.named.isEmpty then Value.mod (mapText id v) (.tuple a.positional)
      else if a.positional.isEmpty then Value.mod (mapText id v) (.map (Entries.ofNames a.named))
      else .error .badArgument),
    ("replace", replaceText), ("indent", indent), ("truncate", truncate), ("tojson", toJson),
    ("int", toInt), ("float", toFloat), ("round", round)]

/-! ### Parts of items -/

/-- The way that a parameter names: positions and names with points between them. -/
def wayOf : Value → List Value
  | .null => []
  | v =>
    match v.text? with
    | some s =>
      (splitOn ['.'] s.toList).map fun cs =>
        if !cs.isEmpty && cs.all isOrdinal then .int ((Number.readInt 10 cs).getD 0)
        else .str (String.ofList cs)
    | none => [v]

/-- The part of an item at the end of a way. -/
def follow (d : Dialect) (host : Host σ) (way : List Value) (v : Value) : Run σ Value :=
  way.foldlM (itemPart d host) v

/-- What letters are compared by: small letters where their case does not count. -/
def sortKey (exact : Bool) (v : Value) : Value :=
  if exact then v
  else
    match v.text? with
    | some s => .str (lower s)
    | none => v

/-- The ways that a parameter names, with commas between them. -/
def waysOf (v : Value) : List (List Value) :=
  match v.text? with
  | some s => (splitOn [','] s.toList).map fun cs => wayOf (.str (String.ofList cs))
  | none => [wayOf v]

/-- Items beside the keys they are ordered by. -/
def keyed (d : Dialect) (host : Host σ) (exact : Bool) (way : Value) (xs : List Value) :
    Run σ (List (Value × Value)) :=
  let ways := waysOf way
  xs.mapM fun x => do
    let ks ← ways.mapM fun w => follow d host w x
    return (.list (ks.map (sortKey exact)), x)

/-- Values in the order of their keys, or in the reverse order; equal ones keep their places. -/
def ordered (reverse : Bool) (es : List (Value × Value)) : Attempt (List Value) := do
  if reverse then return (← Value.sortOn es.reverse).reverse else Value.sortOn es

/-- The filter that sorts. -/
def sort (d : Dialect) (host : Host σ) (v : Value) (a : Arguments) : Run σ Value := do
  let vs ← Run.ofAttempt (a.bind [ "reverse", "case_sensitive", "attribute"] 0)
  let xs ← Run.iterate v
  let es ← keyed d host (param vs 1 .null).truthy (param vs 2 .null) xs
  return .list (← Run.ofAttempt (ordered (param vs 0 .null).truthy es))

/-- The filter that sorts the entries of a mapping. -/
def dictSort (v : Value) (a : Arguments) : Attempt Value := do
  let vs ← a.bind [ "case_sensitive", "by", "reverse"] 0
  let by_ := (param vs 1 (.str "key")).text
  if by_ != "key" && by_ != "value" then throw .badArgument
  else
    match v with
    | .map es =>
      let exact := (param vs 0 .null).truthy
      let keyed := es.map fun e =>
        (sortKey exact (if by_ == "key" then e.1 else e.2), Value.tuple [e.1, e.2])
      return .list (← ordered (param vs 2 .null).truthy keyed)
    | .undefined => throw .undefinedValue
    | _ => throw .noAttribute

/-- The item with the greatest or least key, the first of several. -/
def extreme (d : Dialect) (host : Host σ) (greatest : Bool) (v : Value) (a : Arguments) :
    Run σ Value := do
  let vs ← Run.ofAttempt (a.bind [ "case_sensitive", "attribute"] 0)
  let way := wayOf (param vs 1 .null)
  let key (x : Value) : Run σ Value := do
    return sortKey (param vs 0 .null).truthy (← follow d host way x)
  match ← Run.iterate v with
  | [] => return .undefined
  | x :: xs =>
    let first ← key x
    let best ← xs.foldlM (fun (best : Value × Value) y => do
      let k ← key y
      let better ← Run.ofAttempt (if greatest then Value.less best.1 k else Value.less k best.1)
      return if better then (k, y) else best) (first, x)
    return best.2

/-- The filter that adds up. -/
def sum (d : Dialect) (host : Host σ) (v : Value) (a : Arguments) : Run σ Value := do
  let vs ← Run.ofAttempt (a.bind [ "attribute", "start"] 0)
  let start := param vs 1 (.int 0)
  if start.isText then throw .wrongType
  else
    let way := wayOf (param vs 0 .null)
    let xs ← Run.iterate v
    xs.foldlM (fun total x => do Run.ofAttempt (Value.add total (← follow d host way x))) start

/-- The filter that joins texts. -/
def join (d : Dialect) (host : Host σ) (v : Value) (a : Arguments) : Run σ Value := do
  let vs ← Run.ofAttempt (a.bind [ "d", "attribute"] 0)
  let way := wayOf (param vs 1 .null)
  let xs ← Run.iterate v
  let texts ← xs.mapM fun x => do return (← follow d host way x).text
  return .str ((param vs 0 (.str "")).text.intercalate texts)

/-! ### Selections -/

/-- What a step gives for each item, up to the first that fails. -/
def collect (step : Value → Run σ (List Value)) : List Value → Run σ Once
  | [] => return ⟨[], none⟩
  | x :: xs => fun s =>
    match step x s with
    | .error f => .ok (⟨[], some f⟩, s)
    | .ok (ys, s) => do
      let (rest, s) ← collect step xs s
      return ({ rest with items := ys ++ rest.items }, s)

/-- A sequence that can be gone through once: what a step gives for each item of a value. -/
def selection (v : Value) (step : Value → Run σ (List Value)) : Run σ Value := fun s =>
  match Run.iterate v s with
  | .error f => Run.newStream ⟨[], some f⟩ s
  | .ok (xs, s) => do
    let (once, s) ← collect step xs s
    Run.newStream once s

/-- An empty selection, or one that fails at once. -/
def noSelection (fault : Option Fault) : Run σ Value := Run.newStream ⟨[], fault⟩

/-- The filters that keep the items that pass a test, or those that do not. -/
def select (d : Dialect) (host : Host σ) (keep byPart : Bool) (v : Value) (a : Arguments) :
    Run σ Value := do
  if !v.truthy then noSelection none
  else if byPart && a.positional.isEmpty then noSelection (some .badArgument)
  else
    let way := if byPart then wayOf (a.positional.headD .null) else []
    let rest := if byPart then a.positional.tail else a.positional
    selection v fun x => do
      let y ← follow d host way x
      let passed ← match rest with
        | [] => pure y.truthy
        | name :: args =>
          match name.text? with
          | some t => Run.ofAttempt (Test.ask t y ⟨args, a.named⟩)
          | none => throw .templateRuntime
      return if passed == keep then [x] else []

/-- The first of the items that have equal keys, for each key. -/
def distinct : List (Value × Value) → List Value → Attempt (List Value)
  | [], _ => .ok []
  | (k, x) :: es, seen =>
    if !k.hashable then .error .wrongType
    else if seen.any fun s => k.same s then distinct es seen
    else do return x :: (← distinct es (k :: seen))

/-- The filter that leaves out repetitions. -/
def unique (d : Dialect) (host : Host σ) (v : Value) (a : Arguments) : Run σ Value := do
  let vs ← Run.ofAttempt (a.bind [ "case_sensitive", "attribute"] 0)
  let way := wayOf (param vs 1 .null)
  let body : Run σ (List Value) := do
    let xs ← Run.iterate v
    let es ← xs.mapM fun x => do
      return (sortKey (param vs 0 .null).truthy (← follow d host way x), x)
    Run.ofAttempt (distinct es [])
  fun s => match body s with
    | .error f => Run.newStream ⟨[], some f⟩ s
    | .ok (xs, s) => Run.newStream ⟨xs, none⟩ s

/-- Items in groups of a given size; `group` is the group begun, last item first. -/
def groups (size : Value) (group : List Value) : List Value → List (List Value)
  | [] => if group.isEmpty then [] else [group.reverse]
  | x :: xs =>
    if (Value.int group.length).same size then group.reverse :: groups size [x] xs
    else groups size (x :: group) xs

/-- The filter that puts items into groups; the last group may be filled up. -/
def batch (v : Value) (a : Arguments) : Run σ Value := do
  let vs ← Run.ofAttempt (a.bind [ "linecount", "fill_with"] 1)
  let size := param vs 0 .null
  let filler := param vs 1 .null
  let fill (g : List Value) : Attempt (List Value) :=
    match filler with
    | .null => .ok g
    | f => do
      let n ← TextMethod.whole size
      return g ++ List.replicate (n.toNat - g.length) f
  fun s => match Run.iterate v s with
    | .error f => Run.newStream ⟨[], some f⟩ s
    | .ok (xs, s) =>
      let gs := groups size [] xs
      match gs.getLast? with
      | none => Run.newStream ⟨[], none⟩ s
      | some g =>
        match fill g with
        | .ok g => Run.newStream ⟨(gs.dropLast ++ [g]).map Value.list, none⟩ s
        | .error f => Run.newStream ⟨gs.dropLast.map Value.list, some f⟩ s

/-- The filter that reverses. -/
def reverse (v : Value) (a : Arguments) : Run σ Value := do
  let _ ← Run.ofAttempt (a.plain 0 0)
  match v with
  | .str _ => return mapText List.reverse v
  | .markup _ => return mapText List.reverse v
  | .set xs => return .list xs.reverse
  | .ref (.stream _) => return .list (← Run.iterate v).reverse
  | v =>
    match v.items? with
    | some xs => Run.newStream ⟨xs.reverse, none⟩
    | none => throw .badArgument

/-- The last item of a value that can be gone through backwards. -/
def last (v : Value) (a : Arguments) : Attempt Value := do
  let _ ← a.plain 0 0
  match v with
  | .set _ => throw .wrongType
  | v => return ((← Attempt.ofOption .wrongType v.items?).getLast?).getD .undefined

/-- The filter that gives the entries of a mapping. -/
def entries (v : Value) (a : Arguments) : Run σ Value := do
  let _ ← Run.ofAttempt (a.plain 0 0)
  match v with
  | .map es => Run.newStream ⟨es.map fun e => .tuple [e.1, e.2], none⟩
  | .undefined => noSelection none
  | _ => noSelection (some .wrongType)

/-- The filters that need the state. -/
def stateful : List String :=
  [ "default", "d", "join", "first", "last", "reverse", "list", "sort", "dictsort", "sum", "max",
    "min", "unique", "batch", "items", "attr", "select", "reject", "selectattr", "rejectattr",
    "map"]

/-- The filters there are. -/
def names : List String := simple.map Prod.fst ++ plain.map Prod.fst ++ stateful

/-- Sends a value through a filter; `inner` sends the items of a value through another one. -/
def applyWith (inner : String → Value → Arguments → Run σ Value) (d : Dialect) (host : Host σ)
    (name : String) (v : Value) (a : Arguments) : Run σ Value := do
  match simple.lookup name with
  | some f =>
    let _ ← Run.ofAttempt (a.plain 0 0)
    Run.ofAttempt (f v)
  | none =>
    match plain.lookup name with
    | some f => Run.ofAttempt (f v a)
    | none =>
      match name with
      | "default" => Run.ofAttempt (orDefault d v a)
      | "d" => Run.ofAttempt (orDefault d v a)
      | "join" => join d host v a
      | "first" =>
        let _ ← Run.ofAttempt (a.plain 0 0)
        return (← Run.first? v).getD .undefined
      | "last" => Run.ofAttempt (last v a)
      | "reverse" => reverse v a
      | "list" =>
        let _ ← Run.ofAttempt (a.plain 0 0)
        return .list (← Run.iterate v)
      | "sort" => sort d host v a
      | "dictsort" => Run.ofAttempt (dictSort v a)
      | "sum" => sum d host v a
      | "max" => extreme d host true v a
      | "min" => extreme d host false v a
      | "unique" => unique d host v a
      | "batch" => batch v a
      | "items" => entries v a
      | "attr" =>
        let vs ← Run.ofAttempt (a.bind [ "name"] 1)
        return (← nativePart? host v (param vs 0 .null).text).getD .undefined
      | "select" => select d host true false v a
      | "reject" => select d host false false v a
      | "selectattr" => select d host true true v a
      | "rejectattr" => select d host false true v a
      | "map" =>
        if !v.truthy then noSelection none
        else
          match a.positional, a.named.lookup "attribute" with
          | [], some way =>
            let default := a.named.lookup "default"
            if a.named.any fun p => p.1 != "attribute" && p.1 != "default" then
              noSelection (some .badArgument)
            else
              selection v fun x => do
                match ← follow d host (wayOf way) x, default with
                | .undefined, some .null => return [.undefined]
                | .undefined, some y => return [y]
                | y, _ => return [y]
          | [], none => noSelection (some .badArgument)
          | name :: args, _ =>
            selection v fun x => do
              match name.text? with
              | some f => return [← inner f x ⟨args, a.named⟩]
              | none => throw .templateRuntime
      | _ => if a.named.isEmpty then throw .templateRuntime else throw .wrongType

/-- Sends a value through a filter that names at most `n` others in its arguments. -/
def applyAt (d : Dialect) (host : Host σ) : Nat → String → Value → Arguments → Run σ Value
  | 0 => applyWith (fun _ _ _ => throw .tooDeep) d host
  | n + 1 => applyWith (applyAt d host n) d host

/-- Sends a value through a filter. -/
def apply (d : Dialect) (host : Host σ) (name : String) (v : Value) (a : Arguments) :
    Run σ Value :=
  applyAt d host a.positional.length name v a

end SlidePress.Template.Filter
