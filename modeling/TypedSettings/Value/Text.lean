import TypedSettings.Binary64.Shortest
import TypedSettings.Value.Basic

/-!
# Texts of values

A scalar is written as it stands, an array as the texts of its elements between commas, and a
table as `name = value` pairs between braces. `renderElements_eq_map` and `renderFields_eq_map`
say that lists are written element by element.
-/

namespace TypedSettings
set_option autoImplicit false

namespace Value

/-- The text of a truth value. -/
def truthText (truth : Bool) : String := if truth then "true" else "false"

mutual

/-- The text of a value: the elements of an array are separated by commas, and a table lists its
fields between braces. -/
def render : Value → String
  | text content => content
  | integer number => number.toInt.repr
  | float number => number.text
  | boolean truth => truthText truth
  | array elements => ",".intercalate (renderElements elements)
  | table fields => "\x7b" ++ ", ".intercalate (renderFields fields) ++ "\x7d"

/-- The texts of a list of values. -/
def renderElements : List Value → List String
  | [] => []
  | v :: vs => v.render :: renderElements vs

/-- The texts of a list of fields. -/
def renderFields : List (String × Value) → List String
  | [] => []
  | (name, v) :: fields => (name ++ " = " ++ v.render) :: renderFields fields

end

instance : ToString Value := ⟨render⟩

@[simp] theorem renderElements_eq_map (vs : List Value) : renderElements vs = vs.map render := by
  induction vs with
  | nil => rfl
  | cons v vs ih => simp [renderElements, ih]

@[simp] theorem renderFields_eq_map (fields : List (String × Value)) :
    renderFields fields = fields.map fun f => f.1 ++ " = " ++ f.2.render := by
  induction fields with
  | nil => rfl
  | cons f fields ih => simp [renderFields, ih]

/-- The texts of the elements of an array. -/
def texts? (v : Value) : Option (List String) := v.array?.map fun vs => vs.map render

end Value

end TypedSettings
