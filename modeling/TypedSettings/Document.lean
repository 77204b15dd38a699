import TypedSettings.Key
import TypedSettings.OrderedMap
import TypedSettings.Value.Equality

/-!
# Documents

A document holds the values of settings under their keys, ordered by group and within a group by
item. A group is there exactly as long as it has an item.
-/

namespace TypedSettings
set_option autoImplicit false

/-- Values of settings by their keys. -/
structure Document where
  settings : OrderedMap Key Value
  deriving DecidableEq

namespace Document

/-- The document without settings. -/
def empty : Document := ⟨.empty⟩

instance : Inhabited Document := ⟨empty⟩

/-- The value at a key, if there is one. -/
def find? (d : Document) (k : Key) : Option Value := d.settings.find? k

/-- There is a value at the key. -/
def contains (d : Document) (k : Key) : Bool := d.settings.contains k

/-- The document with a value at a key, in place of the one there was. -/
def set (d : Document) (k : Key) (v : Value) : Document := ⟨d.settings.insert k v⟩

/-- The number of settings. -/
def size (d : Document) : Nat := d.settings.size

/-- There are no settings. -/
def isEmpty (d : Document) : Bool := d.size == 0

/-- The document of a list of settings; of two at one key the later one counts. -/
def ofList (settings : List (Key × Value)) : Document := ⟨.ofList settings⟩

/-- Adds a group in front of increasing groups unless it is the first of them. -/
def consGroup (g : Group) (gs : List Group) : List Group := if gs.head? = some g then gs else g :: gs

/-- The groups that have an item, in increasing order. -/
def groups (d : Document) : List Group := d.settings.entries.foldr (fun e => consGroup e.1.group) []

/-- The group has an item. -/
def hasGroup (d : Document) (g : Group) : Bool := d.settings.entries.any fun e => e.1.group == g

/-- The items of a group with their values, in increasing order. -/
def items (d : Document) (g : Group) : List (String × Value) :=
  d.settings.entries.filterMap fun e => if e.1.group = g then some (e.1.item, e.2) else none

/-- Equality of documents: the same keys, with values that are equal as settings. -/
def equals (d e : Document) : Bool :=
  d.settings.keys == e.settings.keys &&
    Value.equalElements (d.settings.entries.map Prod.snd) (e.settings.entries.map Prod.snd)

@[ext] theorem ext_find? {d e : Document} (h : ∀ k, d.find? k = e.find? k) : d = e := by
  cases d; cases e
  exact congrArg mk (OrderedMap.ext_find? h)

@[simp] theorem find?_empty (k : Key) : empty.find? k = none := rfl

theorem find?_set (d : Document) (k l : Key) (v : Value) :
    (d.set k v).find? l = if l = k then some v else d.find? l :=
  OrderedMap.find?_insert ..

@[simp] theorem find?_set_self (d : Document) (k : Key) (v : Value) : (d.set k v).find? k = some v :=
  OrderedMap.find?_insert_self ..

theorem find?_set_of_ne (d : Document) {k l : Key} (v : Value) (h : l ≠ k) :
    (d.set k v).find? l = d.find? l :=
  OrderedMap.find?_insert_of_ne _ _ h

theorem contains_eq_isSome (d : Document) (k : Key) : d.contains k = (d.find? k).isSome := rfl

theorem size_set (d : Document) (k : Key) (v : Value) :
    (d.set k v).size = if d.contains k then d.size else d.size + 1 :=
  OrderedMap.size_insert ..

theorem set_comm (d : Document) {k l : Key} (v w : Value) (h : k ≠ l) :
    (d.set k v).set l w = (d.set l w).set k v :=
  congrArg mk (OrderedMap.insert_comm _ _ _ h)

theorem find?_eq_some_iff_mem {d : Document} {k : Key} {v : Value} :
    d.find? k = some v ↔ (k, v) ∈ d.settings.entries :=
  OrderedMap.find?_eq_some_iff_mem

/-! ## Groups and items -/

theorem mem_consGroup_iff {g h : Group} {gs : List Group} :
    h ∈ consGroup g gs ↔ h = g ∨ h ∈ gs := by
  unfold consGroup
  split
  · next hhead =>
    have hg : g ∈ gs := List.mem_of_head? hhead
    exact ⟨.inr, fun h => h.elim (fun e => e ▸ hg) id⟩
  · exact List.mem_cons

/-- The groups of entries are those of some entry. -/
theorem mem_foldr_consGroup_iff {g : Group} {es : List (Key × Value)} :
    g ∈ es.foldr (fun e => consGroup e.1.group) [] ↔ ∃ e ∈ es, e.1.group = g := by
  induction es with
  | nil => simp
  | cons e es ih => simp [mem_consGroup_iff, ih, eq_comm]

theorem mem_groups_iff {d : Document} {g : Group} :
    g ∈ d.groups ↔ ∃ item v, d.find? ⟨g, item⟩ = some v := by
  simp only [groups, mem_foldr_consGroup_iff, find?_eq_some_iff_mem]
  constructor
  · rintro ⟨⟨⟨g, item⟩, v⟩, he, rfl⟩
    exact ⟨item, v, he⟩
  · rintro ⟨item, v, he⟩
    exact ⟨_, he, rfl⟩

theorem hasGroup_eq_true_iff {d : Document} {g : Group} : d.hasGroup g = true ↔ g ∈ d.groups := by
  simp only [hasGroup, List.any_eq_true, beq_iff_eq, mem_groups_iff, find?_eq_some_iff_mem]
  constructor
  · rintro ⟨⟨⟨g, item⟩, v⟩, he, rfl⟩
    exact ⟨item, v, he⟩
  · rintro ⟨item, v, he⟩
    exact ⟨_, he, rfl⟩

theorem mem_items_iff {d : Document} {g : Group} {item : String} {v : Value} :
    (item, v) ∈ d.items g ↔ d.find? ⟨g, item⟩ = some v := by
  simp only [items, List.mem_filterMap, Option.ite_none_right_eq_some, Option.some.injEq,
    Prod.mk.injEq, find?_eq_some_iff_mem]
  constructor
  · rintro ⟨⟨⟨g, item⟩, v⟩, he, rfl, rfl, rfl⟩
    exact he
  · intro he
    exact ⟨_, he, rfl, rfl, rfl⟩

end Document

end TypedSettings
