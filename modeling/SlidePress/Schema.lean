import SlidePress.Pattern.Parser
import SlidePress.Text.Search
import SlidePress.Value.Order
import SlidePress.Value.Text

/-! # Schemas

A template declares the shape of its content in a schema: a mapping with the keywords `type`,
`required`, `properties`, `items`, `pattern`, `enum`, `minItems`, `maxItems` and `oneOf`. A schema
is compiled once and then checks any number of contents. Mappings are open: only declared fields
are looked at, and a field that is null counts as missing.

* `Schema.outline`: what a declaration asks for, and the declarations in it.
* `Schema.compile`: the schema that a value declares.
* `Schema.check`: the errors of a value, each with the way to the place it was found at.
* `Schema.validate`: declaration and check in one. -/

namespace SlidePress

/-- What a schema asks of a text. -/
inductive TextRule where
  | free
  /-- One of some values. -/
  | among (allowed : Value)
  /-- A text in which an expression matches somewhere. -/
  | matching (source : String) (p : Pattern)
  /-- An expression for bytes; no text can be searched for it. -/
  | binary
  deriving Inhabited

/-- A compiled schema. -/
inductive Schema where
  | anything
  /-- Whatever one of several schemas accepts. -/
  | union (members : List Schema)
  | text (rule : TextRule)
  | number
  | integer
  | boolean
  | array (items : Schema) (least most : Option Value)
  /-- Any mapping. -/
  | mapping
  /-- A mapping with declared fields; `extra` are the required fields that are not declared. -/
  | object (required : List Value) (fields : List (Value × Schema)) (extra : List Value)
  deriving Inhabited

/-- The outcome of a check. -/
structure Verdict where
  valid : Bool
  errors : List String
  deriving DecidableEq, Repr, Inhabited

/-- A verdict is favourable exactly if there are no errors. -/
def Verdict.ofErrors (errors : List String) : Verdict := ⟨errors.isEmpty, errors⟩

namespace Schema

/-! ### Compiling -/

/-- The items of a value that can be gone through. -/
def itemsOf : Value → Attempt (List Value)
  | .list xs => .ok xs
  | .tuple xs => .ok xs
  | .set xs => .ok xs
  | .map es => .ok (es.map Prod.fst)
  | .str s => .ok (s.toList.map fun c => .str (String.singleton c))
  | .bytes bs => .ok (bs.map fun b => .int b.toNat)
  | _ => .error .wrongType

/-- Distinct keys in order of first occurrence. -/
def distinct (ks : List Value) : List Value :=
  ks.foldl (fun got k => if got.any fun g => k.same g then got else got ++ [k]) []

/-- The keys that a schema requires. -/
def requiredOf (v : Value) : Attempt (List Value) := do
  if v.truthy then
    let ks ← itemsOf v
    if ks.all Value.hashable then return distinct ks else throw .wrongType
  else return []

/-- The rule for texts, by the values that are allowed and the expression that has to match. -/
def textRule (allowed pattern : Value) : Attempt TextRule := do
  if allowed.truthy then return .among allowed
  else
    match pattern with
    | .str s => if s.isEmpty then return .free else return .matching s (← Pattern.parse s)
    | .bytes bs =>
      if bs.isEmpty then return .free
      else
        let _ ← Pattern.parseBytes bs
        return .binary
    | v => if v.truthy then throw .wrongType else return .free

/-- A bound on the length of an array; null counts as none. -/
def boundOf (v : Value) : Option Value :=
  match v with
  | .null => none
  | v => some v

/-- A declaration that counts as false declares nothing. -/
def orNothing (v : Value) : Value := if v.truthy then v else .map []

/-- The entries of a declaration. -/
def declaration : Value → Attempt Entries
  | .map es => .ok es
  | _ => .error .noAttribute

/-- A value at its place, with the lists and mappings around it, the innermost one first: where the
value is one of them inside itself, they say which. -/
structure Place where
  around : List Value
  value : Value
  deriving Inhabited

/-- The same place with the list or mapping that is inside itself there. -/
def Place.whole (p : Place) : Place :=
  match p.value with
  | .again up _ =>
    match p.around.drop up with
    | v :: outer => ⟨outer, v⟩
    | [] => p
  | _ => p

/-- The place of something in the value at a place. -/
def Place.inner (p : Place) (v : Value) : Place :=
  match p.value with
  | .list _ | .map _ => ⟨p.value :: p.around, v⟩
  | _ => ⟨p.around, v⟩

/-- The value of a keyword of the declaration at a place. -/
def Place.keyword (p : Place) (es : Entries) (name : String) : Place :=
  (p.inner (es.getD name)).whole

/-- What a declaration asks for: the declarations in it, and what is to be made of their schemas. -/
structure Outline where
  parts : List Place
  build : List Schema → Schema

/-- A declaration that has no others in it. -/
def Outline.plain (s : Schema) : Outline := ⟨[], fun _ => s⟩

/-- Whatever one of several schemas accepts. -/
def choice : List Schema → Schema
  | [m] => m
  | ms => .union ms

/-- The required fields that are not declared. -/
def undeclared (required : List Value) (fields : List (Value × Schema)) : List Value :=
  required.filter fun k => !fields.any fun f => k.same f.1

/-- The schema of a mapping, given what it requires, the keys of its fields and their schemas. -/
def objectOf (required keys : List Value) (parts : List Schema) : Schema :=
  let fields := keys.zip parts
  .object required fields (undeclared required fields)

/-- The outline of an array. -/
def outlineArray (p : Place) (es : Entries) : Outline :=
  let least := boundOf (es.getD "minItems")
  let most := boundOf (es.getD "maxItems")
  let items := p.keyword es "items"
  match items.value with
  | .null => .plain (.array .anything least most)
  | _ => ⟨[items], fun parts => .array (parts.headD .anything) least most⟩

/-- The outline of an object. -/
def outlineObject (p : Place) (es : Entries) : Attempt Outline := do
  let properties := p.keyword es "properties"
  match properties.value with
  | .null => return .plain .mapping
  | v =>
    let required ← requiredOf (p.keyword es "required").value
    let declared ← declaration v
    return ⟨declared.map fun e => properties.inner (orNothing e.2),
      objectOf required (declared.map Prod.fst)⟩

/-- The outline of a declaration without alternatives, by its type. -/
def outlineType (p : Place) (es : Entries) : Value → Attempt Outline
  | .str "string" => do
    return .plain (.text (← textRule (p.keyword es "enum").value (p.keyword es "pattern").value))
  | .str "number" => .ok (.plain .number)
  | .str "integer" => .ok (.plain .integer)
  | .str "boolean" => .ok (.plain .boolean)
  | .str "array" => .ok (outlineArray p es)
  | .str "object" => outlineObject p es
  | _ => .ok (.plain .anything)

/-- The outline of the declaration at a place. -/
def outline (p : Place) : Attempt Outline := do
  let p := p.whole
  let es ← declaration p.value
  let oneOf := p.keyword es "oneOf"
  if oneOf.value.truthy then return ⟨(← itemsOf oneOf.value).map oneOf.inner, choice⟩
  else
    let type := (es.get? "type").getD (.str "object")
    if type.hashable then outlineType p es type else throw .wrongType

/-- The schema of a declaration in which declarations are nested to a bounded depth. -/
def compileAt : Nat → Place → Attempt Schema
  | 0, _ => .error .tooDeep
  | n + 1, p => do
    let o ← outline p
    return o.build (← o.parts.mapM (compileAt n))

mutual

/-- How many values there are in a value, itself included. -/
def nodes : Value → Nat
  | .list xs => nodesList xs + 1
  | .tuple xs => nodesList xs + 1
  | .set xs => nodesList xs + 1
  | .map es => nodesEntries es + 1
  | _ => 1
termination_by structural v => v

/-- How many values there are in a list. -/
def nodesList : List Value → Nat
  | [] => 0
  | x :: xs => nodes x + nodesList xs
termination_by structural v => v

/-- How many values there are in the entries of a mapping. -/
def nodesEntries : List (Value × Value) → Nat
  | [] => 0
  | (k, v) :: es => nodes k + nodes v + nodesEntries es
termination_by structural v => v

end

/-- The schema that a value declares. Declarations that are nested deeper than there are values are
nested in themselves. -/
def compile (v : Value) : Attempt Schema :=
  let v := orNothing v
  compileAt (nodes v + 1) ⟨[], v⟩

/-! ### Checking -/

/-- The way to a place. -/
abbrev Path := List Value

/-- An error at a place; every step of the way has to be a text. -/
def errorAt (path : Path) (message : String) : Attempt String := do
  let steps ← path.mapM fun k => Attempt.ofOption .wrongType k.text?
  return if steps.isEmpty then message else ".".intercalate steps ++ ": " ++ message

/-- One error at a place. -/
def oneError (path : Path) (message : String) : Attempt (List String) := do
  return [← errorAt path message]

/-- A value of the wrong kind. -/
def wrongKind (path : Path) (expected : String) (v : Value) : Attempt (List String) :=
  oneError path ("Expected " ++ expected ++ ", received " ++ v.kindWord)

/-- Whether a text is among the allowed values. -/
def isAmong (s : String) : Value → Attempt Bool
  | .str allowed => .ok (Text.contains s.toList allowed.toList)
  | .map es => .ok (Entries.get? es s).isSome
  | .list xs => .ok (xs.any fun x => x.same (.str s))
  | .tuple xs => .ok (xs.any fun x => x.same (.str s))
  | .set xs => .ok (xs.any fun x => x.same (.str s))
  | _ => .error .wrongType

/-- Checks a text against a rule. -/
def checkText (rule : TextRule) (path : Path) (s : String) : Attempt (List String) := do
  match rule with
  | .free => return []
  | .among allowed =>
    if ← isAmong s allowed then return []
    else
      let expected := " | ".intercalate ((← itemsOf allowed).map Value.literal)
      oneError path ("Invalid enum value. Expected " ++ expected ++ ", received " ++
        (Value.str s).literal)
  | .matching source p =>
    if p.search s then return []
    else oneError path ("Invalid: must match pattern " ++ (Value.str source).literal)
  | .binary => throw .wrongType

/-- Checks a number against a bound, if there is one: `outside` says whether it is broken, and
`extreme` stands before it in the report. -/
def checkBound (bound : Option Value) (outside : Value → Attempt Bool) (extreme : String)
    (path : Path) : Attempt (List String) := do
  match bound with
  | some m =>
    if ← outside m then
      oneError path ("Array must contain at " ++ extreme ++ " " ++ m.text ++ " element(s)")
    else return []
  | none => return []

/-- Checks the length of an array. -/
def checkLength (least most : Option Value) (path : Path) (n : Nat) : Attempt (List String) := do
  let short ← checkBound least (fun m => Value.less (.int n) m) "least" path
  return short ++ (← checkBound most (fun m => Value.less m (.int n)) "most" path)

/-- The report of a field that is missing. -/
def missing (path : Path) (k : Value) : Attempt (List String) := oneError (path ++ [k]) "Required"

/-- The value of a field; null counts as missing. -/
def present? (es : Entries) (k : Value) : Option Value :=
  match es.find? k with
  | some .null => none
  | v => v

/-- The required fields that are neither declared nor there, in order. -/
def checkExtra (extra : List Value) (es : Entries) (path : Path) : Attempt (List String) := do
  let parts ← (← Value.sorted extra).mapM fun k =>
    if (present? es k).isNone then missing path k else .ok []
  return parts.flatten

mutual

/-- The errors of a value at a place. -/
def check : Schema → Path → Value → Attempt (List String)
  | anything, _, _ => .ok []
  | union members, path, v => do
    if ← accepts members path v then return []
    else oneError path ("Invalid input: does not match any of " ++ toString members.length ++
      " allowed schemas")
  | text rule, path, v =>
    match v.text? with
    | some s => checkText rule path s
    | none => wrongKind path "string" v
  | number, path, v => if v.isNumber then .ok [] else wrongKind path "number" v
  | integer, path, v =>
    match v with
    | .int _ => .ok []
    | .float x =>
      if Number.isWhole x then .ok [] else oneError path "Expected integer, received float"
    | v => wrongKind path "number" v
  | boolean, path, v =>
    match v with
    | .bool _ => .ok []
    | v => wrongKind path "boolean" v
  | array items least most, path, v =>
    match v with
    | .list xs => do
      let parts ← ((Value.members xs).mapIdx fun i x => (i, x)).mapM fun e =>
        check items (path ++ [.str (toString e.1)]) e.2
      return parts.flatten ++ (← checkLength least most path xs.length)
    | v => wrongKind path "array" v
  | mapping, path, v => if v.isMap then .ok [] else wrongKind path "object" v
  | object required fields extra, path, v =>
    match v with
    | .map es => do
      let declared ← checkFields required (Entries.members es) fields path
      return declared ++ (← checkExtra extra (Entries.members es) path)
    | v => wrongKind path "object" v
termination_by structural s => s

/-- Whether one of several schemas finds no error. -/
def accepts : List Schema → Path → Value → Attempt Bool
  | [], _, _ => .ok false
  | m :: ms, path, v => do
    if (← check m path v).isEmpty then return true else accepts ms path v
termination_by structural ss => ss

/-- The errors of the declared fields of a mapping. -/
def checkFields (required : List Value) (es : Entries) :
    List (Value × Schema) → Path → Attempt (List String)
  | [], _ => .ok []
  | (k, s) :: fields, path => do
    let here ← match present? es k with
      | some v => check s (path ++ [k]) v
      | none => if required.any fun r => k.same r then missing path k else .ok []
    return here ++ (← checkFields required es fields path)
termination_by structural fs => fs

end

/-- The verdict on a value. -/
def verdict (s : Schema) (v : Value) : Attempt Verdict := do
  return Verdict.ofErrors (← check s [] v)

/-- Compiles a declaration and checks one value against it. -/
def validate (declared v : Value) : Attempt Verdict := do
  (← compile declared).verdict v

end Schema

end SlidePress
