import Mathlib.Data.List.Nodup
import TypedSettings.OrderedMap

/-!
# Enumerations of maps of maps

A map that holds an inner map under each of its keys can be gone through in many orders: the outer
keys in any order, and under each of them the entries of its inner map in any order. Whatever the
order is, each pair of keys with a value comes up once, with this value.
-/

namespace TypedSettings.OrderedMap
set_option autoImplicit false

open Std (TransOrd LawfulEqOrd)

variable {α β γ : Type} [Ord α] [Ord β]

/-- The list has each outer key once, in some order, and with it the entries of its inner map in
some order. -/
structure EnumeratedBy (m : OrderedMap α (OrderedMap β γ)) (l : List (α × List (β × γ))) : Prop where
  outer : (l.map Prod.fst).Perm m.keys
  inner : ∀ s ∈ l, ∃ entries, m.find? s.1 = some entries ∧ s.2.Perm entries.entries

/-- The values of a list of inner lists, each under its two keys. -/
def paired (l : List (α × List (β × γ))) : List ((α × β) × γ) :=
  l.flatMap fun s => s.2.map fun e => ((s.1, e.1), e.2)

/-- The entries in their own order are an enumeration. -/
theorem enumeratedBy_entries [TransOrd α] [LawfulEqOrd α] (m : OrderedMap α (OrderedMap β γ)) :
    m.EnumeratedBy (m.entries.map fun e => (e.1, e.2.entries)) where
  outer := by
    rw [List.map_map]
    exact .refl _
  inner s mem := by
    obtain ⟨e, isEntry, rfl⟩ := List.mem_map.1 mem
    exact ⟨e.2, find?_eq_some_iff_mem.2 isEntry, .refl _⟩

namespace EnumeratedBy

variable {m : OrderedMap α (OrderedMap β γ)} {l l' : List (α × List (β × γ))}

/-- The outer keys may come in another order. -/
theorem perm (h : m.EnumeratedBy l) (other : l'.Perm l) : m.EnumeratedBy l' where
  outer := (other.map Prod.fst).trans h.outer
  inner s mem := h.inner s (other.mem_iff.1 mem)

/-- What comes up is what is held. -/
theorem mem_paired_iff [TransOrd α] [LawfulEqOrd α] [TransOrd β] [LawfulEqOrd β]
    (h : m.EnumeratedBy l) {a : α} {b : β} {c : γ} : ((a, b), c) ∈ paired l ↔ m.inner? a b = some c := by
  unfold paired inner?
  rw [Option.bind_eq_some_iff]
  constructor
  · intro mem
    obtain ⟨s, inList, inInner⟩ := List.mem_flatMap.1 mem
    obtain ⟨e, isEntry, same⟩ := List.mem_map.1 inInner
    obtain ⟨entries, found, perm⟩ := h.inner s inList
    obtain ⟨keys, rfl⟩ := Prod.mk.inj same
    obtain ⟨rfl, rfl⟩ := Prod.mk.inj keys
    exact ⟨entries, found, find?_eq_some_iff_mem.2 (perm.mem_iff.1 isEntry)⟩
  · rintro ⟨entries, found, holds⟩
    obtain ⟨s, inList, rfl⟩ := List.mem_map.1 (h.outer.mem_iff.2 (mem_keys_of_find? found))
    obtain ⟨entries', found', perm⟩ := h.inner s inList
    obtain rfl := Option.some.inj (found.symm.trans found')
    exact List.mem_flatMap.2 ⟨s, inList, List.mem_map.2
      ⟨(b, c), perm.mem_iff.2 (find?_eq_some_iff_mem.1 holds), rfl⟩⟩

/-- No pair of keys comes up twice. -/
theorem nodup_paired [LawfulEqOrd α] [LawfulEqOrd β] (h : m.EnumeratedBy l) :
    ((paired l).map Prod.fst).Nodup := by
  have outer : (l.map Prod.fst).Nodup := h.outer.nodup_iff.2 m.nodup_keys
  rw [paired, List.map_flatMap, List.nodup_flatMap]
  constructor
  · intro s mem
    obtain ⟨entries, -, perm⟩ := h.inner s mem
    have inner : (s.2.map Prod.fst).Nodup := (perm.map Prod.fst).nodup_iff.2 entries.nodup_keys
    rw [List.map_map]
    have nodup := inner.map (f := fun b => (s.1, b)) fun _ _ same => (Prod.mk.inj same).2
    rwa [List.map_map] at nodup
  · have outerKey : ∀ {s : α × List (β × γ)} {x : α × β},
        x ∈ (s.2.map fun e => ((s.1, e.1), e.2)).map Prod.fst → x.1 = s.1 := by
      intro s x mem
      rw [List.map_map] at mem
      obtain ⟨-, -, rfl⟩ := List.mem_map.1 mem
      rfl
    exact (List.pairwise_map.1 outer).imp fun differs x inFirst inSecond =>
      differs ((outerKey inFirst).symm.trans (outerKey inSecond))

/-- As many values come up as the inner maps hold. -/
theorem length_paired [TransOrd α] [LawfulEqOrd α] (h : m.EnumeratedBy l) :
    (paired l).length = m.innerSize := by
  have sizes : l.map (fun s => s.2.length) =
      (l.map Prod.fst).map fun a => (m.find? a).elim 0 size := by
    rw [List.map_map]
    refine List.map_congr_left fun s mem => ?_
    obtain ⟨entries, found, perm⟩ := h.inner s mem
    simp only [Function.comp_apply, found, Option.elim_some]
    exact perm.length_eq
  have held : m.keys.map (fun a => (m.find? a).elim 0 size) = m.entries.map fun e => e.2.size := by
    rw [keys, List.map_map]
    refine List.map_congr_left fun e mem => ?_
    have found : m.find? e.1 = some e.2 := find?_eq_some_iff_mem.2 mem
    simp only [Function.comp_apply, found, Option.elim_some]
  rw [paired, List.length_flatMap]
  simp only [List.length_map]
  rw [sizes, (h.outer.map _).sum_nat, held, List.sum_eq_foldr, List.foldr_map, innerSize]

end EnumeratedBy

end TypedSettings.OrderedMap
