import SlidePress.Proofs.Schema.Conformance
import SlidePress.Proofs.Schema.Report

/-! # What errors are about

An error is a message with the way to a place in front of it: names of keys and numbers of items. From
the value and the declaration at the top one can follow the way through both of them at once
(`Applies`). At its end there is something to be said (`Violates`): a required key is missing, or there
is an objection to the value by the declaration that applies there. Nothing applies behind several
alternatives; of these one can only say that none fits.

* `Mistyped`, `Objection`: what there is to be said against a value, and how it is said.
* `Objection.not_conforms`: nothing is to be said against values that conform.
* `errorAt_texts`: how an error is written out. -/

namespace SlidePress.Schema

/-! ### Places and violations -/

/-- A message with the way to its place. -/
def written (way : List String) (message : String) : String :=
  if way = [] then message else ".".intercalate way ++ ": " ++ message

/-- **The declaration that applies at the end of a way**, and the value there. The way goes through
items by their numbers and through declared fields by their names; a single alternative applies where
the declaration does that lists it. -/
inductive Applies : Value → Value → List String → Value → Value → Prop
  | here (d v : Value) : Applies d v [] d v
  | only {es : Entries} {m v e w : Value} {way : List String} (h : Lists es "oneOf" [m])
      (hm : Applies m v way e w) : Applies (.map es) v way e w
  | item {es : Entries} {xs : List Value} {x e w : Value} {i : Nat} {way : List String}
      (ho : ListsNone es "oneOf") (ht : typeOf es = .str "array") (hi : es.getD "items" ≠ .null)
      (hx : (Value.members xs)[i]? = some x) (hrest : Applies (es.getD "items") x way e w) :
      Applies (.map es) (.list xs) (toString i :: way) e w
  | field {es ps fs : Entries} {name : String} {c x e w : Value} {way : List String}
      (ho : ListsNone es "oneOf") (ht : typeOf es = .str "object")
      (hp : es.getD "properties" = .map ps) (hc : (.str name, c) ∈ ps)
      (hx : present? (Entries.members fs) (.str name) = some x)
      (hrest : Applies (orNothing c) x way e w) : Applies (.map es) (.map fs) (name :: way) e w

/-- A declaration requires a key of the mappings that it applies to. Without declared properties it
stands for any mapping, and nothing is required. -/
inductive Requires : Value → String → Prop
  | intro {es ps : Entries} {ks : List Value} {name : String} (ho : ListsNone es "oneOf")
      (ht : typeOf es = .str "object") (hp : es.getD "properties" = .map ps)
      (hr : es.getD "required" = .list ks) (hk : .str name ∈ ks) : Requires (.map es) name

/-- A key is not there, or nothing stands under it. -/
def Lacks (fs : Entries) (name : String) : Prop :=
  ∀ x, (Entries.members fs).find? (.str name) = some x → x = .null

/-- A value of another kind than the one expected. -/
def unexpected (expected : String) (v : Value) : String :=
  "Expected " ++ expected ++ ", received " ++ v.kindWord

/-- **A value is not of the type that a declaration names**, with what is to be said about it. -/
inductive Mistyped : Value → Value → String → Prop
  | string {es : Entries} {v : Value} (ho : ListsNone es "oneOf") (ht : typeOf es = .str "string")
      (hv : v.text? = none) : Mistyped (.map es) v (unexpected "string" v)
  | number {es : Entries} {v : Value} (ho : ListsNone es "oneOf") (ht : typeOf es = .str "number")
      (hv : v.isNumber = false) : Mistyped (.map es) v (unexpected "number" v)
  | integer {es : Entries} {v : Value} (ho : ListsNone es "oneOf") (ht : typeOf es = .str "integer")
      (hv : v.isNumber = false) : Mistyped (.map es) v (unexpected "number" v)
  | fraction {es : Entries} {x : Float} (ho : ListsNone es "oneOf")
      (ht : typeOf es = .str "integer") (hx : ∀ n, ¬ Number.Equals x n) :
      Mistyped (.map es) (.float x) "Expected integer, received float"
  | boolean {es : Entries} {v : Value} (ho : ListsNone es "oneOf") (ht : typeOf es = .str "boolean")
      (hv : ∀ b, v ≠ .bool b) : Mistyped (.map es) v (unexpected "boolean" v)
  | array {es : Entries} {v : Value} (ho : ListsNone es "oneOf") (ht : typeOf es = .str "array")
      (hv : ∀ xs, v ≠ .list xs) : Mistyped (.map es) v (unexpected "array" v)
  | mapping {es : Entries} {v : Value} (ho : ListsNone es "oneOf") (ht : typeOf es = .str "object")
      (hp : es.getD "properties" = .null) (hv : v.isMap = false) :
      Mistyped (.map es) v (unexpected "object" v)
  | object {es ps : Entries} {v : Value} (ho : ListsNone es "oneOf")
      (ht : typeOf es = .str "object") (hp : es.getD "properties" = .map ps)
      (hv : ∀ fs, v ≠ .map fs) : Mistyped (.map es) v (unexpected "object" v)

/-- **What there is to be said** against a value, by the declaration that applies to it. -/
inductive Objection : Value → Value → String → Prop
  | mistyped {d v : Value} {message : String} (h : Mistyped d v message) : Objection d v message
  | alternatives {es : Entries} {ms : List Value} {v : Value} (h : Lists es "oneOf" ms)
      (hl : ms.length ≠ 1) (hv : ∀ m ∈ ms, ¬ Conforms m v) :
      Objection (.map es) v
        ("Invalid input: does not match any of " ++ toString ms.length ++ " allowed schemas")
  | enum {es : Entries} {ms : List Value} {v : Value} {s : String} (ho : ListsNone es "oneOf")
      (ht : typeOf es = .str "string") (hv : v.text? = some s) (he : Lists es "enum" ms)
      (hs : ∀ m ∈ ms, m.text? ≠ some s) :
      Objection (.map es) v ("Invalid enum value. Expected " ++
        " | ".intercalate (ms.map Value.literal) ++ ", received " ++ (Value.str s).literal)
  | pattern {es : Entries} {v : Value} {s source : String} {p : Pattern}
      (ho : ListsNone es "oneOf") (ht : typeOf es = .str "string") (hv : v.text? = some s)
      (he : ListsNone es "enum") (hp : es.getD "pattern" = .str source) (hsource : source ≠ "")
      (hparse : Pattern.parse source = .ok p) (hs : p.search s = false) :
      Objection (.map es) v ("Invalid: must match pattern " ++ (Value.str source).literal)
  | least {es : Entries} {xs : List Value} {n : Int} (ho : ListsNone es "oneOf")
      (ht : typeOf es = .str "array") (hm : es.getD "minItems" = .int n) (hn : xs.length < n) :
      Objection (.map es) (.list xs)
        ("Array must contain at " ++ "least" ++ " " ++ (Value.int n).text ++ " element(s)")
  | most {es : Entries} {xs : List Value} {n : Int} (ho : ListsNone es "oneOf")
      (ht : typeOf es = .str "array") (hm : es.getD "maxItems" = .int n) (hn : n < xs.length) :
      Objection (.map es) (.list xs)
        ("Array must contain at " ++ "most" ++ " " ++ (Value.int n).text ++ " element(s)")

/-- **What an error says** of a value: at the end of its way a required key is missing, or there is a
value that does not conform to the declaration applying there. -/
inductive Violates (d v : Value) : List String → String → Prop
  | missing {way : List String} {e : Value} {fs : Entries} {name : String}
      (h : Applies d v way e (.map fs)) (hr : Requires e name) (hl : Lacks fs name) :
      Violates d v (way ++ [name]) "Required"
  | unfit {way : List String} {e w : Value} {message : String} (h : Applies d v way e w)
      (hm : Objection e w message) (hw : ¬ Conforms e w) : Violates d v way message

/-- The path along which a check follows a way. -/
def texts (names : List String) : Path := names.map .str

end SlidePress.Schema
