import TypedSettings.Proofs.Document.Equality
import TypedSettings.Proofs.Document.Listing

/-!
# Documents in two levels

A document can be kept in two levels, an ordered map of its groups that holds for each group the
ordered map of its items. A value is put into the map of its group, which is made when the group is
new. Such levels represent a document when they answer as it does and have no group without an item.
They then list what it lists, group by group, and are equal when documents are.
-/

namespace TypedSettings
set_option autoImplicit false

/-- The values of items by their names, for each group. -/
abbrev Levels := OrderedMap Group (OrderedMap String Value)

namespace Levels

/-- The value at a key, if there is one: that of the item in its group. -/
def value? (m : Levels) (k : Key) : Option Value := m.inner? k.group k.item

/-- Puts a value into the map of its group, which is made when it is not there. -/
def put (m : Levels) (k : Key) (v : Value) : Levels :=
  m.insert k.group (((m.find? k.group).getD .empty).insert k.item v)

/-- The items of a group with their values, in increasing order. -/
def itemsOf (m : Levels) (g : Group) : List (String × Value) :=
  match m.find? g with
  | none => []
  | some items => items.entries

/-- Equality of levels: the same groups with equal maps of items. -/
def agree (m n : Levels) : Bool := m.equals (OrderedMap.equals Value.equals) n

/-- The levels answer as the document does, and no group is without an item. -/
structure Represents (m : Levels) (d : Document) : Prop where
  value?_eq : ∀ k, m.value? k = d.find? k
  filled : ∀ g items, m.find? g = some items → ∃ item v, items.find? item = some v

variable {m n : Levels} {d e : Document} {g : Group}

theorem represents_empty : Represents .empty .empty where
  value?_eq _ := rfl
  filled _ _ found := nomatch found

theorem value?_put (m : Levels) (k l : Key) (v : Value) :
    (m.put k v).value? l = if l = k then some v else m.value? l := by
  rw [value?, put, OrderedMap.inner?_insert]
  exact if_congr Key.eq_iff.symm rfl rfl

/-- Levels represent a document with one more value when they represented it before. -/
theorem Represents.put (h : m.Represents d) (k : Key) (v : Value) :
    (m.put k v).Represents (d.set k v) where
  value?_eq l := by rw [value?_put, Document.find?_set, h.value?_eq]
  filled g items found := by
    rw [Levels.put, OrderedMap.find?_insert] at found
    split at found
    · obtain rfl := Option.some.inj found
      exact ⟨k.item, v, OrderedMap.find?_insert_self ..⟩
    · exact h.filled g items found

/-! ## Listings -/

theorem mem_itemsOf_iff {item : String} {v : Value} :
    (item, v) ∈ m.itemsOf g ↔ m.value? ⟨g, item⟩ = some v := by
  rw [itemsOf, value?, OrderedMap.inner?]
  cases m.find? g with
  | none => simp
  | some items => exact OrderedMap.find?_eq_some_iff_mem.symm

theorem increasing_itemsOf (m : Levels) (g : Group) :
    (m.itemsOf g).Pairwise fun a b => compare a.1 b.1 = .lt := by
  rw [itemsOf]
  cases m.find? g with
  | none => exact .nil
  | some items => exact items.increasing

theorem Represents.itemsOf_eq (h : m.Represents d) (g : Group) : m.itemsOf g = d.items g := by
  refine OrderedMap.eq_of_increasing (m.increasing_itemsOf g) (d.increasing_items g) fun e => ?_
  rw [mem_itemsOf_iff, Document.mem_items_iff, h.value?_eq]

theorem Represents.contains_iff (h : m.Represents d) : m.contains g = true ↔ g ∈ d.groups := by
  rw [OrderedMap.contains, Option.isSome_iff_exists, Document.mem_groups_iff]
  simp only [← h.value?_eq, value?, OrderedMap.inner?]
  constructor
  · rintro ⟨items, found⟩
    obtain ⟨item, v, holds⟩ := h.filled g items found
    refine ⟨item, v, ?_⟩
    rw [found]
    exact holds
  · rintro ⟨item, v, holds⟩
    obtain ⟨items, found, -⟩ := Option.bind_eq_some_iff.1 holds
    exact ⟨items, found⟩

theorem Represents.keys_eq (h : m.Represents d) : m.keys = d.groups := by
  have increasing : m.keys.Pairwise fun g g' => compare g g' = .lt :=
    List.pairwise_map.2 m.increasing
  refine OrderedMap.eq_of_increasing (f := id) increasing d.increasing_groups fun g => ?_
  rw [OrderedMap.mem_keys_iff, h.contains_iff]

/-- The settings of the document are those of the levels, group by group. -/
theorem Represents.flattened_eq (h : m.Represents d) :
    d.flattened = m.entries.flatMap fun e => e.2.entries.map fun i => (⟨e.1, i.1⟩, i.2) := by
  have items : ∀ e ∈ m.entries, d.items e.1 = e.2.entries := by
    intro e mem
    have found : m.find? e.1 = some e.2 := OrderedMap.find?_eq_some_iff_mem.2 mem
    rw [← h.itemsOf_eq, itemsOf, found]
  rw [Document.flattened, ← h.keys_eq, OrderedMap.keys, List.flatMap_map]
  refine List.flatMap_congr fun e mem => ?_
  rw [items e mem]

/-- The sizes of the groups add up to that of the document. -/
theorem Represents.innerSize_eq (h : m.Represents d) : m.innerSize = d.size := by
  rw [Document.size, OrderedMap.size, ← d.flattened_eq, h.flattened_eq, OrderedMap.innerSize]
  induction m.entries with
  | nil => rfl
  | cons e es ih =>
    rw [List.foldr_cons, ih, List.flatMap_cons, List.length_append, List.length_map]
    rfl

/-! ## Equality -/

theorem value?_of_find? {k : Key} {items : OrderedMap String Value}
    (found : m.find? k.group = some items) : m.value? k = items.find? k.item := by
  rw [value?, OrderedMap.inner?, found]
  rfl

/-- In levels with the same groups a group has items in both of them or in neither. -/
theorem find?_cases (same : ∀ g, m.contains g = n.contains g) (g : Group) :
    (m.find? g = none ∧ n.find? g = none) ∨
      ∃ as bs, m.find? g = some as ∧ n.find? g = some bs := by
  have both := same g
  rw [OrderedMap.contains, OrderedMap.contains] at both
  cases inM : m.find? g with
  | none =>
    rw [inM] at both
    have absent : ¬ (n.find? g).isSome = true := by
      rw [← both]
      exact Bool.false_ne_true
    exact .inl ⟨rfl, Option.not_isSome_iff_eq_none.1 absent⟩
  | some as =>
    rw [inM] at both
    obtain ⟨bs, inN⟩ := Option.isSome_iff_exists.1 both.symm
    exact .inr ⟨as, bs, rfl, inN⟩

/-- Levels are equal when the documents that they represent are. -/
theorem Represents.agree_eq (hm : m.Represents d) (hn : n.Represents e) :
    m.agree n = d.equals e := by
  rw [Bool.eq_iff_iff, agree, OrderedMap.equals_iff, Document.equals_iff]
  simp only [OrderedMap.equals_iff, Document.contains_eq_isSome, ← hm.value?_eq, ← hn.value?_eq]
  constructor
  · rintro ⟨sameGroups, sameItems⟩
    have group := find?_cases sameGroups
    constructor
    · intro k
      rcases group k.group with ⟨inM, inN⟩ | ⟨as, bs, inM, inN⟩
      · rw [value?, value?, OrderedMap.inner?, OrderedMap.inner?, inM, inN]
      · rw [value?_of_find? inM, value?_of_find? inN]
        exact (sameItems k.group as bs inM inN).1 k.item
    · intro k v w here there
      rcases group k.group with ⟨inM, -⟩ | ⟨as, bs, inM, inN⟩
      · rw [value?, OrderedMap.inner?, inM] at here
        cases here
      · rw [value?_of_find? inM] at here
        rw [value?_of_find? inN] at there
        exact (sameItems k.group as bs inM inN).2 k.item v w here there
  · rintro ⟨sameKeys, sameValues⟩
    constructor
    · intro g
      rw [Bool.eq_iff_iff, hm.contains_iff, hn.contains_iff, Document.mem_groups_iff,
        Document.mem_groups_iff]
      simp only [← hm.value?_eq, ← hn.value?_eq, ← Option.isSome_iff_exists, sameKeys]
    · intro g as bs inM inN
      constructor
      · intro item
        have same := sameKeys ⟨g, item⟩
        rw [value?_of_find? inM, value?_of_find? inN] at same
        exact same
      · intro item v w here there
        refine sameValues ⟨g, item⟩ v w ?_ ?_
        · rw [value?_of_find? inM, here]
        · rw [value?_of_find? inN, there]

end Levels

end TypedSettings
