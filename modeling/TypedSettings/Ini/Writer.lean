import TypedSettings.Document
import TypedSettings.Value.Text

/-!
# INI text of documents

A document is written as a header and one assignment a line for each of its groups. Strings
stand between double quotes, and each element of an array is followed by a comma.
-/

namespace TypedSettings.Ini
set_option autoImplicit false

/-- A scalar as raw text; what is no scalar is written as its own text. -/
def writeScalar : Value → String
  | .text content => "\"" ++ content ++ "\""
  | v => v.render

/-- The elements of an array as raw text. An array without elements is a lone comma. -/
def writeElements : List Value → String
  | [] => ","
  | vs => String.join (vs.map fun v => writeScalar v ++ ",")

/-- A value as raw text. -/
def writeValue : Value → String
  | .array elements => writeElements elements
  | v => writeScalar v

/-- An assignment as a line. -/
def writeAssignment (item : String) (v : Value) : String := item ++ " = " ++ writeValue v ++ "\n"

/-- A group as a header and the lines of its items. -/
def writeGroup (d : Document) (g : Group) : String :=
  "[" ++ g.name ++ "]\n" ++ String.join ((d.items g).map fun e => writeAssignment e.1 e.2)

/-- A document as INI text. -/
def write (d : Document) : String := String.join (d.groups.map (writeGroup d))

end TypedSettings.Ini
