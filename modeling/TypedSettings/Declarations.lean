import TypedSettings.Key
import TypedSettings.Kind
import TypedSettings.OrderedMap

/-!
# Declarations

The declarations of a program say which kind each of its settings has. A declaration is made
once: a later one for the same key is refused, and so is one of the undefined kind.
-/

namespace TypedSettings
set_option autoImplicit false

/-- The declared kinds of settings by their keys. -/
structure Declarations where
  kinds : OrderedMap Key Kind
  deriving DecidableEq

namespace Declarations

/-- Nothing is declared. -/
def empty : Declarations := ⟨.empty⟩

instance : Inhabited Declarations := ⟨empty⟩

/-- The declared kind of a key, `undefined` when there is none. -/
def kindOf (d : Declarations) (k : Key) : Kind := (d.kinds.find? k).getD .undefined

/-- The key is declared. -/
def contains (d : Declarations) (k : Key) : Bool := (d.kindOf k).isDefined

/-- The declarations with one more, unless it is refused. -/
def declare? (d : Declarations) (k : Key) (kind : Kind) : Option Declarations :=
  if kind.isDefined && !d.kinds.contains k then some ⟨d.kinds.insert k kind⟩ else none

/-- The number of declarations. -/
def size (d : Declarations) : Nat := d.kinds.size

/-- Nothing is declared. -/
def isEmpty (d : Declarations) : Bool := d.size == 0

/-- The declarations in increasing order of their keys. -/
def toList (d : Declarations) : List (Key × Kind) := d.kinds.entries

@[ext] theorem ext_find? {d e : Declarations} (h : ∀ k, d.kinds.find? k = e.kinds.find? k) :
    d = e := by
  cases d; cases e
  exact congrArg mk (OrderedMap.ext_find? h)

@[simp] theorem kindOf_empty (k : Key) : empty.kindOf k = .undefined := rfl

theorem kindOf_of_find? {d : Declarations} {k : Key} {kind : Kind}
    (h : d.kinds.find? k = some kind) : d.kindOf k = kind := by
  rw [kindOf, h, Option.getD_some]

theorem kindOf_of_find?_eq_none {d : Declarations} {k : Key} (h : d.kinds.find? k = none) :
    d.kindOf k = .undefined := by
  rw [kindOf, h, Option.getD_none]

theorem declare?_eq_some_iff {d e : Declarations} {k : Key} {kind : Kind} :
    d.declare? k kind = some e ↔
      kind.isDefined = true ∧ d.kinds.contains k = false ∧ e = ⟨d.kinds.insert k kind⟩ := by
  simp [declare?, and_assoc, eq_comm (a := e)]

/-- A defined kind is recorded for a key that has none. -/
theorem declare?_of_fresh {d : Declarations} {k : Key} {kind : Kind} (defined : kind.isDefined = true)
    (fresh : d.kinds.find? k = none) : d.declare? k kind = some ⟨d.kinds.insert k kind⟩ := by
  simp [declare?, OrderedMap.contains, defined, fresh]

/-- Nothing is recorded for a key that has a kind. -/
theorem declare?_of_find? {d : Declarations} {k : Key} {kind other : Kind}
    (declared : d.kinds.find? k = some other) : d.declare? k kind = none := by
  simp [declare?, OrderedMap.contains, declared]

theorem find?_of_declare? {d e : Declarations} {k : Key} {kind : Kind}
    (h : d.declare? k kind = some e) (l : Key) :
    e.kinds.find? l = if l = k then some kind else d.kinds.find? l := by
  obtain ⟨_, _, rfl⟩ := declare?_eq_some_iff.1 h
  exact OrderedMap.find?_insert ..

theorem kindOf_of_declare? {d e : Declarations} {k : Key} {kind : Kind}
    (h : d.declare? k kind = some e) (l : Key) :
    e.kindOf l = if l = k then kind else d.kindOf l := by
  rw [kindOf, find?_of_declare? h]
  split <;> rfl

theorem size_of_declare? {d e : Declarations} {k : Key} {kind : Kind}
    (h : d.declare? k kind = some e) : e.size = d.size + 1 := by
  obtain ⟨_, hfresh, rfl⟩ := declare?_eq_some_iff.1 h
  simp [size, OrderedMap.size_insert, hfresh]

end Declarations

end TypedSettings
