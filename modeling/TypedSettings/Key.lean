/-!
# Groups and keys

A setting is addressed by its group and its item name. The empty group name stands for the
group `DEFAULT`, so a `Group` never has an empty name. Groups, and within a group the items,
are ordered by code points.
-/

namespace TypedSettings
set_option autoImplicit false

open Std (TransOrd LawfulEqOrd TransCmp)

/-- The name of the group that settings outside any named group belong to. -/
def defaultGroupName : String := "DEFAULT"

/-- A group of settings, by its name. -/
structure Group where
  name : String
  name_ne_empty : name ≠ ""
  deriving DecidableEq

namespace Group

/-- The group that a name stands for: `DEFAULT` for the empty name. -/
def of (name : String) : Group :=
  if h : name = "" then ⟨defaultGroupName, by decide⟩ else ⟨name, h⟩

instance : Ord Group := ⟨compareOn name⟩

@[ext] theorem ext_name {a b : Group} (h : a.name = b.name) : a = b := by
  cases a; cases b; simp_all

@[simp] theorem of_empty : of "" = of defaultGroupName := rfl

@[simp] theorem name_of_defaultGroupName : (of defaultGroupName).name = defaultGroupName := rfl

theorem name_of {name : String} (h : name ≠ "") : (of name).name = name := by
  simp [of, h]

@[simp] theorem of_name (g : Group) : of g.name = g := by
  ext
  rw [name_of g.name_ne_empty]

/-- Two names stand for one group when they agree up to the name of the default group. -/
theorem of_eq_of_iff {a b : String} :
    of a = of b ↔
      (if a = "" then defaultGroupName else a) = (if b = "" then defaultGroupName else b) := by
  have h : ∀ n, (of n).name = if n = "" then defaultGroupName else n := fun n => by
    unfold of
    split <;> rfl
  rw [← h, ← h]
  exact ⟨congrArg name, ext_name⟩

theorem compare_eq {a b : Group} : compare a b = compare a.name b.name := rfl

instance : TransOrd Group := inferInstanceAs (TransCmp (compareOn name))

instance : LawfulEqOrd Group where
  compare_self := by simp
  eq_of_compare h := ext_name (LawfulEqOrd.eq_of_compare h)

end Group

/-- The address of one setting. -/
structure Key where
  group : Group
  item : String
  deriving DecidableEq

namespace Key

/-- The key of an item in the group that a name stands for. -/
def of (group item : String) : Key := ⟨Group.of group, item⟩

/-- A key in text: group, point, item. -/
def text (k : Key) : String := k.group.name ++ "." ++ k.item

instance : ToString Key := ⟨text⟩

/-- Keys are ordered by group first, then by item. -/
instance : Ord Key := ⟨compareLex (compareOn group) (compareOn item)⟩

@[simp] theorem group_of (group item : String) : (of group item).group = Group.of group := rfl

@[simp] theorem item_of (group item : String) : (of group item).item = item := rfl

@[simp] theorem of_group_item (k : Key) : of k.group.name k.item = k := by
  simp [of]

theorem eq_iff {k l : Key} : k = l ↔ k.group = l.group ∧ k.item = l.item := by
  cases k; cases l
  exact Key.mk.injEq .. |>.to_iff

/-- Two pairs of names are one key when the items agree and the names stand for one group. -/
theorem of_eq_of_iff {g h i j : String} :
    of g i = of h j ↔ i = j ∧ Group.of g = Group.of h := by
  simp [of, and_comm]

theorem compare_eq {a b : Key} :
    compare a b = (compare a.group b.group).then (compare a.item b.item) := rfl

instance : TransOrd Key :=
  inferInstanceAs (TransCmp (compareLex (compareOn group) (compareOn item)))

instance : LawfulEqOrd Key where
  compare_self := by simp
  eq_of_compare {a b} h := by
    rw [compare_eq, Ordering.then_eq_eq] at h
    obtain ⟨hg, hi⟩ := h
    cases a; cases b
    simp_all

end Key

end TypedSettings
