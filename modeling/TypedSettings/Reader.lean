import TypedSettings.Value.Text

/-!
# Readers

A reader turns the value of a setting into data of the program's own. It is tied to one kind:
the registry reads a setting only through a reader of the kind it was declared as. There is one
reader for each defined kind; a program may have more.
-/

namespace TypedSettings
set_option autoImplicit false

/-- A way to read settings of one kind. -/
structure Reader (α : Type) where
  /-- The kind of the settings that are read. -/
  kind : Kind
  /-- The data in a value, if the value fits. -/
  read : Value → Option α
  /-- What a setting without a value reads as. -/
  fallback : α

namespace Reader

/-- Reads strings. -/
def string : Reader String := ⟨.string, Value.text?, ""⟩

/-- Reads integers. -/
def integer : Reader Int64 := ⟨.integer, Value.integer?, 0⟩

/-- Reads floats. -/
def float : Reader Binary64 := ⟨.float, Value.float?, .zero⟩

/-- Reads booleans. -/
def boolean : Reader Bool := ⟨.boolean, Value.boolean?, false⟩

/-- Reads arrays as the texts of their elements. -/
def stringArray : Reader (List String) := ⟨.stringArray, Value.texts?, []⟩

/-- The reader that goes on with a function of the data. -/
def map {α β : Type} (f : α → β) (r : Reader α) : Reader β :=
  ⟨r.kind, fun v => (r.read v).map f, f r.fallback⟩

@[simp] theorem kind_map {α β : Type} (f : α → β) (r : Reader α) : (r.map f).kind = r.kind := rfl

@[simp] theorem read_map {α β : Type} (f : α → β) (r : Reader α) (v : Value) :
    (r.map f).read v = (r.read v).map f := rfl

/-- The reader takes every value of its kind. -/
def Total {α : Type} (r : Reader α) : Prop := ∀ v : Value, v.kind? = some r.kind → (r.read v).isSome

theorem total_string : string.Total := by
  intro v h
  cases v <;> simp_all [string, Value.kind?, Value.text?]

theorem total_integer : integer.Total := by
  intro v h
  cases v <;> simp_all [integer, Value.kind?, Value.integer?]

theorem total_float : float.Total := by
  intro v h
  cases v <;> simp_all [float, Value.kind?, Value.float?]

theorem total_boolean : boolean.Total := by
  intro v h
  cases v <;> simp_all [boolean, Value.kind?, Value.boolean?]

theorem total_stringArray : stringArray.Total := by
  intro v h
  cases v <;> simp_all [stringArray, Value.kind?, Value.texts?, Value.array?]

end Reader

end TypedSettings
