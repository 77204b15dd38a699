import TypedSettings.Binary64.Rounding
import TypedSettings.Text.Blank
import TypedSettings.Value.Basic

/-!
# Typed values of raw text

A raw value has the type that its text shows. Between double quotes it is a string; with a comma
it is an array of the pieces between its commas; else it is a truth value, an integer, a float or,
when nothing else fits, a string.
-/

namespace TypedSettings.Ini
set_option autoImplicit false

open Text (trim)

/-- What stands between double quotes at the two ends of a text. -/
def unquote? : List Char → Option (List Char)
  | '"' :: rest =>
    match rest.reverse with
    | '"' :: inside => some inside.reverse
    | _ => none
  | _ => none

/-- A truth value, in ASCII letters of any case. -/
def readTruth? (cs : List Char) : Option Bool :=
  let word := cs.map Char.toLower
  if word = ['t', 'r', 'u', 'e'] then some true
  else if word = ['f', 'a', 'l', 's', 'e'] then some false
  else none

/-- The scalar that a text without quotes shows. -/
def inferBare (cs : List Char) : Value :=
  match readTruth? cs with
  | some truth => .boolean truth
  | none =>
    match Text.readInt64? cs with
    | some number => .integer number
    | none =>
      match Text.Decimal.read? cs with
      | some number => .float (.ofDecimal number)
      | none => .text (String.ofList cs)

/-- The scalar that a text shows. -/
def inferScalar (cs : List Char) : Value :=
  match unquote? cs with
  | some inside => .text (String.ofList inside)
  | none => inferBare cs

/-- The pieces between commas, trimmed; those that are blank do not count. -/
def pieces (cs : List Char) : List (List Char) :=
  ((cs.splitOn ',').map trim).filter fun piece => !piece.isEmpty

/-- The value that a text shows. Quotes around the whole text come before commas in it. -/
def infer (raw : String) : Value :=
  let cs := trim raw.toList
  match unquote? cs with
  | some inside => .text (String.ofList inside)
  | none => if ',' ∈ cs then .array ((pieces cs).map inferScalar) else inferScalar cs

end TypedSettings.Ini
