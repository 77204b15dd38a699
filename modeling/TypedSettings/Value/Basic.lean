import TypedSettings.Binary64.Basic
import TypedSettings.Kind
import TypedSettings.OrderedMap

/-!
# Values of settings

A value is a scalar of one of four kinds, an array of values or a table of named values. Every
array may be declared as a string array, since each of its elements has a text; a table fits no
kind. A table lists its fields in increasing order of their names.
-/

namespace TypedSettings
set_option autoImplicit false

/-- What a setting holds. -/
inductive Value where
  | text (content : String)
  | integer (number : Int64)
  | float (number : Binary64)
  | boolean (truth : Bool)
  | array (elements : List Value)
  | table (fields : List (String × Value))

namespace Value

instance : Inhabited Value := ⟨text ""⟩

/-- The table of a list of fields; of two with the same name the later one counts. -/
def ofFields (fields : List (String × Value)) : Value := table (OrderedMap.ofList fields).entries

/-- The array of a list of texts. -/
def ofTexts (texts : List String) : Value := array (texts.map text)

/-! ## Kinds and blank values -/

/-- The kind that a value may be declared as. -/
def kind? : Value → Option Kind
  | text _ => some .string
  | integer _ => some .integer
  | float _ => some .float
  | boolean _ => some .boolean
  | array _ => some .stringArray
  | table _ => none

/-- What a value is called in messages. -/
def kindName : Value → String
  | text _ => "string"
  | integer _ => "integer"
  | float _ => "float"
  | boolean _ => "boolean"
  | array _ => "array"
  | table _ => "table"

/-- A text, an array or a table without content. -/
def isEmpty : Value → Bool
  | text content => content.isEmpty
  | array elements => elements.isEmpty
  | table fields => fields.isEmpty
  | _ => false

/-- The value equals the zero value of its kind. -/
def isZero : Value → Bool
  | integer number => number == 0
  | float number => number.isZero
  | boolean truth => !truth
  | v => v.isEmpty

/-- The value that stands for nothing under a defined kind. -/
def zero? : Kind → Option Value
  | .string => some (text "")
  | .integer => some (integer 0)
  | .float => some (float .zero)
  | .boolean => some (boolean false)
  | .stringArray => some (array [])
  | .undefined => none

/-! ## Contents by kind -/

/-- The content of a text. -/
def text? : Value → Option String
  | text content => some content
  | _ => none

/-- The number of an integer. -/
def integer? : Value → Option Int64
  | integer number => some number
  | _ => none

/-- The number of a float. -/
def float? : Value → Option Binary64
  | float number => some number
  | _ => none

/-- The truth value of a boolean. -/
def boolean? : Value → Option Bool
  | boolean truth => some truth
  | _ => none

/-- The elements of an array. -/
def array? : Value → Option (List Value)
  | array elements => some elements
  | _ => none

/-! ## Small facts -/

theorem isZero_of_isEmpty {v : Value} (h : v.isEmpty = true) : v.isZero = true := by
  cases v <;> simp_all [isZero, isEmpty]

theorem kind?_ne_undefined (v : Value) : v.kind? ≠ some .undefined := by
  cases v <;> simp [kind?]

theorem zero?_isSome_iff {k : Kind} : (zero? k).isSome = true ↔ k.isDefined = true := by
  cases k <;> decide

theorem kind?_of_zero? {k : Kind} {v : Value} (h : zero? k = some v) : v.kind? = some k := by
  cases k <;> simp_all [zero?] <;> subst h <;> rfl

theorem isZero_of_zero? {k : Kind} {v : Value} (h : zero? k = some v) : v.isZero = true := by
  cases k <;> simp_all [zero?] <;> subst h <;> rfl

end Value

end TypedSettings
