import TypedSettings.Text.Blank

/-!
# Lines of INI text

A line is blank, a section header or an assignment. A semicolon or a number sign starts a comment
anywhere in a line, and blanks around a line, a name or a value do not count. Each line stands
for itself: there are no continued lines and no escapes.
-/

namespace TypedSettings.Ini
set_option autoImplicit false

open Text (trim)

/-- What a line of INI text says. -/
inductive Line where
  | blank
  | header (name : List Char)
  | assignment (key : List Char) (value : Option (List Char))
  deriving DecidableEq, Repr

/-- Why a line cannot be read. -/
inductive LineFault where
  | unclosedHeader
  | emptyKey
  deriving DecidableEq, Repr

namespace Line

/-- The character starts a comment. -/
def startsComment (c : Char) : Bool := c == ';' || c == '#'

/-- The character stands between a key and its value. -/
def delimits (c : Char) : Bool := c == '=' || c == ':'

/-- A line without its comment and the blanks around the rest. -/
def content (cs : List Char) : List Char := trim (cs.takeWhile fun c => !startsComment c)

/-- What stands before the last closing bracket, if there is one. -/
def beforeLastBracket? (cs : List Char) : Option (List Char) :=
  match cs.reverse.dropWhile (· != ']') with
  | [] => none
  | _ :: before => some before.reverse

/-- Reads what follows the opening bracket of a header. What follows its last closing bracket does
not count. -/
def readHeader (cs : List Char) : Except LineFault Line :=
  match beforeLastBracket? cs with
  | some name => .ok (header (trim name))
  | none => .error .unclosedHeader

/-- Reads an assignment: a key, and after the first delimiter a value. -/
def readAssignment (cs : List Char) : Except LineFault Line :=
  let key := trim (cs.takeWhile fun c => !delimits c)
  match cs.dropWhile fun c => !delimits c with
  | [] => .ok (assignment key none)
  | _ :: value =>
    if key.isEmpty then .error .emptyKey else .ok (assignment key (some (trim value)))

/-- Reads the content of a line. -/
def ofContent : List Char → Except LineFault Line
  | [] => .ok blank
  | '[' :: cs => readHeader cs
  | cs => readAssignment cs

/-- Reads a line. -/
def read (cs : List Char) : Except LineFault Line := ofContent (content cs)

end Line

/-- A line that cannot be read, and its number counted from one. -/
structure SyntaxFault where
  line : Nat
  fault : LineFault
  deriving DecidableEq, Repr

namespace SyntaxFault

/-- What is said about a line that cannot be read. A delimiter without a key stands at the start of
the content of its line. -/
def message : SyntaxFault → String
  | ⟨line, .unclosedHeader⟩ =>
    s!"line {line}: Found opening bracket for section name but no closing bracket"
  | ⟨line, .emptyKey⟩ => s!"line {line}:0: Key cannot be empty"

instance : ToString SyntaxFault := ⟨message⟩

end SyntaxFault

end TypedSettings.Ini
