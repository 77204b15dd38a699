import TypedSettings.Proofs.Document.Equality
import TypedSettings.Proofs.Document.Listing
import TypedSettings.Proofs.Document.TwoLevels
import TypedSettings.Registry.Program

/-!
# Documents made by placements

A document that a program makes is settled by the last placement for each key. It answers and lists
these values and nothing else, groups and items in the order of their bytes, and it is the same
document whatever the order of placements for different keys was.
-/

namespace TypedSettings
set_option autoImplicit false

open Text (bytes)

/-- The key that a placement is for. -/
def Placement.key (p : Placement) : Key := .of p.group p.item

/-- Every key is that of a group name and an item. -/
theorem Key.forall_iff {P : Key → Prop} : (∀ k, P k) ↔ ∀ group item, P (.of group item) := by
  constructor
  · intro all group item
    exact all _
  · intro all k
    rw [← Key.of_group_item k]
    exact all _ _

namespace Document

/-- The document that placements make. -/
def made (ps : List Placement) : Document := (empty.placeEach ps).2

/-- The value of the last placement for a key. -/
def lastPlaced? (ps : List Placement) (k : Key) : Option Value :=
  ((ps.filter fun p => p.key = k).getLast?).map Placement.value

variable {ps qs : List Placement} {p : Placement} {k : Key} {v : Value}

/-! ## One more placement -/

theorem placeEach_append (d : Document) (ps qs : List Placement) :
    d.placeEach (ps ++ qs) =
      ((d.placeEach ps).1 ++ ((d.placeEach ps).2.placeEach qs).1,
        ((d.placeEach ps).2.placeEach qs).2) := by
  induction ps generalizing d with
  | nil => rfl
  | cons p ps ih =>
    rw [List.cons_append, placeEach, ih]
    rfl

theorem length_placeEach (d : Document) (ps : List Placement) :
    (d.placeEach ps).1.length = ps.length := by
  induction ps generalizing d with
  | nil => rfl
  | cons p ps ih =>
    rw [placeEach, List.length_cons, List.length_cons, ih]

theorem made_concat (ps : List Placement) (p : Placement) :
    made (ps ++ [p]) = (made ps).set p.key p.value := by
  rw [made, placeEach_append]
  rfl

theorem lastPlaced?_concat (ps : List Placement) (p : Placement) (k : Key) :
    lastPlaced? (ps ++ [p]) k = if k = p.key then some p.value else lastPlaced? ps k := by
  unfold lastPlaced?
  rw [List.filter_append]
  by_cases same : p.key = k
  · rw [if_pos same.symm, List.filter_singleton, decide_eq_true same]
    exact congrArg (Option.map _) List.getLast?_concat
  · rw [if_neg (Ne.symm same), List.filter_singleton, decide_eq_false same]
    exact congrArg (fun ps => (List.getLast? ps).map _) (List.append_nil _)

theorem exists_lastPlaced?_iff : (∃ v, lastPlaced? ps k = some v) ↔ ∃ p ∈ ps, p.key = k := by
  unfold lastPlaced?
  simp only [Option.map_eq_some_iff]
  constructor
  · rintro ⟨-, p, last, -⟩
    obtain ⟨mem, same⟩ := List.mem_filter.1 (List.mem_of_getLast? last)
    exact ⟨p, mem, of_decide_eq_true same⟩
  · rintro ⟨p, mem, same⟩
    have kept : p ∈ ps.filter fun p => p.key = k :=
      List.mem_filter.2 ⟨mem, decide_eq_true same⟩
    have last := List.getLast?_eq_some_getLast (List.ne_nil_of_mem kept)
    exact ⟨_, _, last, rfl⟩

/-! ## All placements -/

/-- The document holds under each key the value of the last placement for it. -/
theorem find?_made (ps : List Placement) (k : Key) : (made ps).find? k = lastPlaced? ps k := by
  induction ps using List.reverseRecOn with
  | nil => rfl
  | append_singleton ps p ih => rw [made_concat, find?_set, lastPlaced?_concat, ih]

theorem exists_find?_made_iff : (∃ v, (made ps).find? k = some v) ↔ ∃ p ∈ ps, p.key = k := by
  rw [← exists_lastPlaced?_iff, find?_made]

/-- Each placement gives back what was there just before it. -/
theorem reply_placeEach (before after : List Placement) (p : Placement) :
    (empty.placeEach (before ++ p :: after)).1[before.length]? =
      some ((made before).find? p.key) := by
  rw [placeEach_append, ← length_placeEach empty before, List.getElem?_append_right (Nat.le_refl _),
    Nat.sub_self]
  rfl

/-! ## What a document lists -/

/-- The document holds what the placements say and nothing else. Its groups and the items of each
group are listed in the order of their bytes, and all settings in the order of their keys. -/
structure Mirrors (d : Document) (ps : List Placement) : Prop where
  find?_eq : ∀ group item, d.find? (.of group item) = lastPlaced? ps (.of group item)
  contains_iff : ∀ group item,
    d.contains (.of group item) = true ↔ ∃ p ∈ ps, p.key = .of group item
  groups_increasing : d.groups.Pairwise fun g h => bytes g.name < bytes h.name
  mem_groups_iff : ∀ g, g ∈ d.groups ↔ ∃ p ∈ ps, Group.of p.group = g
  hasGroup_iff : ∀ group, d.hasGroup (.of group) = true ↔ Group.of group ∈ d.groups
  items_increasing : ∀ group, (d.items (.of group)).Pairwise fun a b => bytes a.1 < bytes b.1
  mem_items_iff : ∀ group item v,
    (item, v) ∈ d.items (.of group) ↔ lastPlaced? ps (.of group item) = some v
  flattened_increasing : d.flattened.Pairwise fun a b => compare a.1 b.1 = .lt
  size_eq : d.size = (ps.map Placement.key).toFinset.card
  isEmpty_iff : d.isEmpty = true ↔ ps = []

/-- There are as many settings as keys that something was placed for. -/
theorem size_made (ps : List Placement) :
    (made ps).size = (ps.map Placement.key).toFinset.card := by
  apply size_eq_card
  intro k
  rw [exists_find?_made_iff, List.mem_toFinset, List.mem_map]

theorem isEmpty_made_iff : (made ps).isEmpty = true ↔ ps = [] := by
  have isEmpty : (made ps).isEmpty = true ↔ (made ps).size = 0 := beq_iff_eq
  rw [isEmpty, size_made, Finset.card_eq_zero, List.toFinset_eq_empty_iff, List.map_eq_nil_iff]

theorem mirrors_made (ps : List Placement) : (made ps).Mirrors ps where
  find?_eq group item := find?_made ps _
  contains_iff group item := by
    rw [contains_eq_isSome, Option.isSome_iff_exists, exists_find?_made_iff]
  groups_increasing := (increasing_groups _).imp fun less => Text.compare_eq_lt_iff_bytes.1 less
  mem_groups_iff g := by
    rw [Document.mem_groups_iff]
    simp only [exists_find?_made_iff]
    constructor
    · rintro ⟨item, p, mem, same⟩
      exact ⟨p, mem, congrArg Key.group same⟩
    · rintro ⟨p, mem, rfl⟩
      exact ⟨p.item, p, mem, rfl⟩
  hasGroup_iff group := hasGroup_eq_true_iff
  items_increasing group :=
    (increasing_items _ _).imp fun less => Text.compare_eq_lt_iff_bytes.1 less
  mem_items_iff group item v := by
    rw [Document.mem_items_iff, ← find?_made]
    rfl
  flattened_increasing := increasing_flattened _
  size_eq := size_made ps
  isEmpty_iff := isEmpty_made_iff

/-! ## The order of placements -/

/-- Only the order of the placements for one key counts. -/
theorem made_eq_made (same : ∀ k, ps.filter (·.key = k) = qs.filter (·.key = k)) :
    made ps = made qs := by
  apply ext_find?
  intro k
  rw [find?_made, find?_made, lastPlaced?, lastPlaced?, same]

/-- The levels that the placements make. -/
def levels (ps : List Placement) : Levels := ps.foldl (fun m p => m.put p.key p.value) .empty

theorem represents_levels (ps : List Placement) : (levels ps).Represents (made ps) := by
  induction ps using List.reverseRecOn with
  | nil => exact Levels.represents_empty
  | append_singleton ps p ih =>
    rw [levels, List.foldl_append, made_concat]
    exact ih.put p.key p.value

/-! ## Documents as ordered maps -/

/-- A document made by placements holds the last of them for each key, lists its settings in order,
and was changed by each placement under its key only. Documents are equal when they have the same
keys and under each of them equal values, so they only differ from themselves by what is no number,
and placements for different keys may come in any order. Kept in two levels, one map of items for
each group, a document answers, lists, counts and compares in the same way. -/
theorem made_is_ordered_map :
    (∀ ps, (made ps).Mirrors ps) ∧
    (∀ before p after,
      (empty.placeEach (before ++ p :: after)).1[before.length]? =
        some ((made before).find? p.key) ∧
      ∀ k, k ≠ p.key → (made (before ++ [p])).find? k = (made before).find? k) ∧
    (∀ ps qs, (made ps).equals (made qs) = true ↔
      (∀ group item,
        (made ps).contains (.of group item) = (made qs).contains (.of group item)) ∧
      ∀ group item v w, (made ps).find? (.of group item) = some v →
        (made qs).find? (.of group item) = some w → v.equals w = true) ∧
    (∀ ps qs : List Placement, (∀ k, ps.filter (·.key = k) = qs.filter (·.key = k)) →
      made ps = made qs) ∧
    (∀ ps, (made ps).equals (made ps) = true ↔
      ∀ group item v, (made ps).find? (.of group item) = some v → ¬ v.HasNan) ∧
    (∀ ps, (∀ k, (levels ps).value? k = (made ps).find? k) ∧
      (levels ps).keys = (made ps).groups ∧
      (∀ g, (levels ps).contains g = (made ps).hasGroup g) ∧
      (∀ g, (levels ps).itemsOf g = (made ps).items g) ∧
      (levels ps).innerSize = (made ps).size ∧
      ∀ qs, (levels ps).agree (levels qs) = (made ps).equals (made qs)) := by
  refine ⟨mirrors_made, fun before p after => ⟨reply_placeEach before after p, fun k other => ?_⟩,
    fun ps qs => ?_, fun ps qs => made_eq_made, fun ps => ?_, fun ps => ?_⟩
  · rw [made_concat, find?_set_of_ne _ _ other]
  · rw [equals_iff, Key.forall_iff, Key.forall_iff]
  · rw [equals_self_iff, Key.forall_iff]
  · have represents := represents_levels ps
    refine ⟨represents.value?_eq, represents.keys_eq, fun g => ?_, represents.itemsOf_eq,
      represents.innerSize_eq, fun qs => represents.agree_eq (represents_levels qs)⟩
    rw [Bool.eq_iff_iff, represents.contains_iff, hasGroup_eq_true_iff]

end Document

end TypedSettings
