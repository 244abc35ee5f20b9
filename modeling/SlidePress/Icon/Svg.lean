import SlidePress.Pattern.Replacement
import SlidePress.Text.Blank
import SlidePress.Text.Search

/-! # Dressing SVG markup

Class, width and height of an icon are set on the root tag: in place of the attribute that is there,
or as the first attribute. A color takes the place of the current color wherever that is filled in.

* `Svg.setAttribute`: one attribute.
* `Svg.dress`: all of them. -/

namespace SlidePress.Svg

open SlidePress.Text

/-- What follows an attribute with a value in double quotes, if a text begins with a blank and the
attribute; `name` is its name. -/
def afterAttribute? (name : List Char) : List Char → Option (List Char)
  | c :: r =>
    if isBlank c then
      match after? (name ++ ['=', '"']) r with
      | some r =>
        match r.dropWhile (· != '"') with
        | _ :: rest => some rest
        | [] => none
      | none => none
    else none
  | [] => none

/-- The text before the first attribute with a name, and what follows the attribute. -/
def splitAttribute? (name : List Char) : List Char → Option (List Char × List Char)
  | [] => none
  | c :: r =>
    match afterAttribute? name (c :: r) with
    | some rest => some ([], rest)
    | none => (splitAttribute? name r).map fun (before, rest) => (c :: before, rest)

/-- An attribute with its value, behind a blank. -/
def written (name value : List Char) : List Char := ' ' :: name ++ '=' :: '"' :: value ++ ['"']

/-- The beginning of the first tag. -/
def rootTag : List Char := "<svg".toList

/-- Sets an attribute of the root tag. -/
def setAttribute (name value cs : List Char) : Attempt (List Char) := do
  let head := cs.takeWhile (· != '>')
  if (splitAttribute? name head).isSome then
    match splitAttribute? name cs with
    | some (before, rest) =>
      let whole := (cs.drop before.length).take (cs.length - before.length - rest.length)
      return before ++ (← Replacement.expand whole (written name value)) ++ rest
    | none => return cs
  else return replaceUpTo 1 rootTag (rootTag ++ written name value) cs

/-- The attribute that fills in the current color. -/
def currentFill : List Char := "fill=\"currentColor\"".toList

/-- Markup with a color in place of the current color. -/
def recolor (color : String) (cs : List Char) : List Char :=
  if color = "currentColor" then cs
  else replaceAll currentFill ("fill=\"".toList ++ color.toList ++ ['"']) cs

/-- Markup with class, size and color. -/
def dress (svg className size color : String) : Attempt String := do
  let cs := stripChars svg.toList
  let cs ← setAttribute "class".toList className.toList cs
  let cs ← setAttribute "width".toList size.toList cs
  let cs ← setAttribute "height".toList size.toList cs
  return String.ofList (recolor color cs)

theorem recolor_currentColor (cs : List Char) : recolor "currentColor" cs = cs := by
  simp [recolor]

end SlidePress.Svg
