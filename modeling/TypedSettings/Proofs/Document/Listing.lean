import Mathlib.Data.Finset.Card
import TypedSettings.Document
import TypedSettings.Proofs.Text.ByteOrder

/-!
# Listings of documents

A document lists its groups and, group by group, its items. Both listings are strictly increasing,
no group is listed without an item, and together they are the settings in the order of their keys.
-/

namespace TypedSettings
set_option autoImplicit false

open Std (TransOrd TransCmp OrientedCmp)

/-! ## The order of keys -/

namespace Key

variable {k l : Key}

theorem compare_group_isLE (h : compare k l = .lt) : (compare k.group l.group).isLE = true := by
  rw [compare_eq, Ordering.then_eq_lt] at h
  rcases h with less | ⟨same, -⟩
  · rw [less]
    rfl
  · rw [same]
    rfl

/-- Within a group the keys are in the order of the items. -/
theorem compare_item_of_group_eq (h : compare k l = .lt) (same : k.group = l.group) :
    compare k.item l.item = .lt := by
  rw [compare_eq, same, Std.compare_self] at h
  exact h

theorem compare_of_group_lt (h : compare k.group l.group = .lt) : compare k l = .lt := by
  rw [compare_eq, h]
  rfl

end Key

namespace Document

variable {d : Document} {g : Group}

/-! ## Groups -/

/-- Increasing groups stay so with one in front that is at most each of them: it is left out when it
is the first of them, and comes before it otherwise. -/
theorem increasing_consGroup {gs : List Group} (least : ∀ h ∈ gs, (compare g h).isLE = true)
    (increasing : gs.Pairwise fun g h => compare g h = .lt) :
    (consGroup g gs).Pairwise fun g h => compare g h = .lt := by
  unfold consGroup
  split
  · exact increasing
  · next differs =>
    refine List.pairwise_cons.2 ⟨fun h mem => ?_, increasing⟩
    obtain ⟨head, tail, rfl⟩ := List.exists_cons_of_ne_nil (List.ne_nil_of_mem mem)
    have before : compare g head = .lt := by
      cases order : compare g head with
      | lt => rfl
      | eq =>
        rw [Std.LawfulEqOrd.eq_of_compare order] at differs
        exact absurd List.head?_cons differs
      | gt =>
        have notAfter := least head List.mem_cons_self
        rw [order] at notAfter
        cases notAfter
    rcases List.mem_cons.1 mem with rfl | inTail
    · exact before
    · exact TransCmp.lt_trans before ((List.pairwise_cons.1 increasing).1 h inTail)

/-- The groups of entries in increasing order are in increasing order. -/
theorem increasing_foldr_consGroup {es : List (Key × Value)}
    (h : es.Pairwise fun a b => compare a.1 b.1 = .lt) :
    (es.foldr (fun e => consGroup e.1.group) []).Pairwise fun g h => compare g h = .lt := by
  induction es with
  | nil => exact .nil
  | cons e es ih =>
    obtain ⟨first, rest⟩ := List.pairwise_cons.1 h
    refine increasing_consGroup (fun g mem => ?_) (ih rest)
    obtain ⟨e', inRest, rfl⟩ := mem_foldr_consGroup_iff.1 mem
    exact Key.compare_group_isLE (first e' inRest)

theorem increasing_groups (d : Document) : d.groups.Pairwise fun g h => compare g h = .lt :=
  increasing_foldr_consGroup d.settings.increasing

/-! ## Items -/

theorem increasing_items (d : Document) (g : Group) :
    (d.items g).Pairwise fun a b => compare a.1 b.1 = .lt := by
  refine d.settings.increasing.filterMap _ fun a a' less b found b' found' => ?_
  rw [Option.ite_none_right_eq_some, Option.some.injEq] at found found'
  obtain ⟨here, rfl⟩ := found
  obtain ⟨there, rfl⟩ := found'
  exact Key.compare_item_of_group_eq less (here.trans there.symm)

/-- The settings group by group, each group in the order of its items. -/
def flattened (d : Document) : List (Key × Value) :=
  d.groups.flatMap fun g => (d.items g).map fun e => (⟨g, e.1⟩, e.2)

theorem mem_flattened_iff {k : Key} {v : Value} : (k, v) ∈ d.flattened ↔ d.find? k = some v := by
  unfold flattened
  constructor
  · intro mem
    obtain ⟨g, -, inGroup⟩ := List.mem_flatMap.1 mem
    obtain ⟨e, isItem, same⟩ := List.mem_map.1 inGroup
    obtain ⟨rfl, rfl⟩ := Prod.mk.inj same
    exact mem_items_iff.1 isItem
  · intro found
    exact List.mem_flatMap.2 ⟨k.group, mem_groups_iff.2 ⟨k.item, v, found⟩,
      List.mem_map.2 ⟨(k.item, v), mem_items_iff.2 found, rfl⟩⟩

theorem increasing_flattened (d : Document) :
    d.flattened.Pairwise fun a b => compare a.1 b.1 = .lt := by
  refine List.pairwise_flatMap.2 ⟨fun g _ => ?_, d.increasing_groups.imp fun less => ?_⟩
  · refine List.pairwise_map.2 ((d.increasing_items g).imp fun less => ?_)
    rw [Key.compare_eq, Std.compare_self]
    exact less
  · intro a inFirst b inSecond
    obtain ⟨-, -, rfl⟩ := List.mem_map.1 inFirst
    obtain ⟨-, -, rfl⟩ := List.mem_map.1 inSecond
    exact Key.compare_of_group_lt less

/-- Group by group the listings give the settings in the order of their keys. -/
theorem flattened_eq (d : Document) : d.flattened = d.settings.entries := by
  refine OrderedMap.eq_of_increasing d.increasing_flattened d.settings.increasing fun e => ?_
  rw [mem_flattened_iff, find?_eq_some_iff_mem]

/-! ## Sizes -/

/-- The keys that have a value. -/
def keySet (d : Document) : Finset Key := d.settings.keys.toFinset

theorem mem_keySet_iff {k : Key} : k ∈ d.keySet ↔ ∃ v, d.find? k = some v := by
  rw [keySet, List.mem_toFinset, OrderedMap.mem_keys_iff, OrderedMap.contains,
    Option.isSome_iff_exists]
  rfl

theorem card_keySet (d : Document) : d.keySet.card = d.size := by
  rw [keySet, List.toFinset_card_of_nodup d.settings.nodup_keys]
  exact List.length_map ..

/-- A document with as many settings as a set has keys, when these are the keys with a value. -/
theorem size_eq_card {ks : Finset Key} (h : ∀ k, k ∈ ks ↔ ∃ v, d.find? k = some v) :
    d.size = ks.card := by
  have same : d.keySet = ks := Finset.ext fun k => mem_keySet_iff.trans (h k).symm
  rw [← card_keySet, same]

end Document

end TypedSettings
