/-!
# Kinds of settings

A setting is declared under one of five kinds. The sixth, `undefined`, says that nothing is
declared; it comes last in the order of kinds.
-/

namespace TypedSettings
set_option autoImplicit false

/-- What a setting may be declared to hold. -/
inductive Kind where
  | string
  | integer
  | float
  | boolean
  | stringArray
  | undefined
  deriving DecidableEq, Repr

namespace Kind

/-- Nothing is declared unless something is said. -/
instance : Inhabited Kind := ⟨undefined⟩

/-- A kind that something can be declared to hold. -/
def isDefined (k : Kind) : Bool := k != undefined

/-- The place of a kind in the order of kinds. -/
def rank : Kind → Nat
  | string => 0
  | integer => 1
  | float => 2
  | boolean => 3
  | stringArray => 4
  | undefined => 5

instance : Ord Kind := ⟨compareOn rank⟩

/-- The name of a kind in messages. -/
def name : Kind → String
  | string => "string"
  | integer => "integer"
  | float => "float"
  | boolean => "boolean"
  | stringArray => "string array"
  | undefined => "undefined"

instance : ToString Kind := ⟨name⟩

/-- The six kinds in order. -/
def all : List Kind := [string, integer, float, boolean, stringArray, undefined]

/-- The kind of a name. -/
def ofName? (name : String) : Option Kind := all.find? (·.name == name)

theorem isDefined_eq_true_iff {k : Kind} : k.isDefined = true ↔ k ≠ undefined := by
  cases k <;> decide

theorem mem_all (k : Kind) : k ∈ all := by
  cases k <;> decide

theorem ofName?_name (k : Kind) : ofName? k.name = some k := by
  cases k <;> decide +kernel

end Kind

end TypedSettings
