import TypedSettings.Ini.Line
import TypedSettings.Key
import TypedSettings.OrderedMap

/-!
# Sections of INI text

The lines of a text assign raw values to keys of the current section. A section that is opened
again continues, a key that is assigned again has its later value, and before the first header
the current section is the default one.
-/

namespace TypedSettings.Ini
set_option autoImplicit false

/-- Raw values by section and key; a key may stand without a value. -/
abbrev Sections := OrderedMap String (OrderedMap String (Option String))

/-- The raw values so far, and the section that the next line belongs to. -/
structure Reading where
  current : String
  sections : Sections

namespace Reading

/-- Nothing was read yet. -/
def start : Reading := ⟨defaultGroupName, .empty⟩

/-- Gives a key of the current section a raw value. -/
def assign (r : Reading) (key : String) (value : Option String) : Reading :=
  let entries := (r.sections.find? r.current).getD .empty
  { r with sections := r.sections.insert r.current (entries.insert key value) }

/-- Takes one line in. -/
def add (r : Reading) : Line → Reading
  | .blank => r
  | .header name => { r with current := String.ofList name }
  | .assignment key value => r.assign (String.ofList key) (value.map String.ofList)

/-- Takes lines in, the first of them under the given number; stops at the first one that cannot be
read. -/
def addLines (r : Reading) (number : Nat) : List (List Char) → Except SyntaxFault Reading
  | [] => .ok r
  | cs :: rest =>
    match Line.read cs with
    | .ok line => addLines (r.add line) (number + 1) rest
    | .error fault => .error ⟨number, fault⟩

end Reading

/-- The lines of a text. A carriage return before the end of a line is a blank of that line. -/
def lines (text : String) : List (List Char) := text.toList.splitOn '\n'

/-- Reads the sections of a text. -/
def readSections (text : String) : Except SyntaxFault Sections :=
  (Reading.start.addLines 1 (lines text)).map Reading.sections

end TypedSettings.Ini
