import Mathlib.Data.List.Forall2
import TypedSettings.Document

/-!
# Equality of values and of documents

Values are equal place by place, so a value differs from itself exactly when there is something that
is no number in it, at any depth. Documents are equal when they have the same keys and under each
key equal values.
-/

namespace TypedSettings
set_option autoImplicit false

open Std (TransOrd LawfulEqOrd)

namespace Value

/-! ## What differs from itself -/

/-- Somewhere in the value there is a float that is no number. -/
inductive HasNan : Value → Prop where
  | float : HasNan (.float .nan)
  | array {elements : List Value} {v : Value} (mem : v ∈ elements) (inside : HasNan v) :
      HasNan (.array elements)
  | table {fields : List (String × Value)} {field : String × Value} (mem : field ∈ fields)
      (inside : HasNan field.2) : HasNan (.table fields)

theorem hasNan_float_iff {number : Binary64} : HasNan (.float number) ↔ number = .nan := by
  constructor
  · rintro ⟨⟩
    rfl
  · rintro rfl
    exact .float

theorem hasNan_array_iff {elements : List Value} :
    HasNan (.array elements) ↔ ∃ v ∈ elements, v.HasNan := by
  constructor
  · rintro (_ | ⟨mem, inside⟩)
    exact ⟨_, mem, inside⟩
  · rintro ⟨v, mem, inside⟩
    exact .array mem inside

theorem hasNan_table_iff {fields : List (String × Value)} :
    HasNan (.table fields) ↔ ∃ field ∈ fields, field.2.HasNan := by
  constructor
  · rintro (_ | _ | ⟨mem, inside⟩)
    exact ⟨_, mem, inside⟩
  · rintro ⟨field, mem, inside⟩
    exact .table mem inside

mutual

/-- A value equals itself unless there is something in it that is no number. -/
theorem equals_self_iff : (v : Value) → (v.equals v = true ↔ ¬ v.HasNan)
  | text _ | integer _ | boolean _ => by
    rw [equals, beq_self_eq_true]
    exact ⟨fun _ => nofun, fun _ => rfl⟩
  | float number => by rw [equals, Binary64.equals_self_iff, hasNan_float_iff]
  | array elements => by
    rw [equals, equalElements_self_iff elements, hasNan_array_iff]
    simp only [not_exists, not_and]
  | table fields => by
    rw [equals, equalFields_self_iff fields, hasNan_table_iff]
    simp only [not_exists, not_and]

theorem equalElements_self_iff : (vs : List Value) →
    (equalElements vs vs = true ↔ ∀ v ∈ vs, ¬ v.HasNan)
  | [] => by simp [equalElements]
  | v :: vs => by
    rw [equalElements, Bool.and_eq_true, equals_self_iff v, equalElements_self_iff vs,
      List.forall_mem_cons]

theorem equalFields_self_iff : (fields : List (String × Value)) →
    (equalFields fields fields = true ↔ ∀ field ∈ fields, ¬ field.2.HasNan)
  | [] => by simp [equalFields]
  | (name, v) :: fields => by
    rw [equalFields, Bool.and_eq_true, beq_self_eq_true, Bool.true_and, equals_self_iff v,
      equalFields_self_iff fields, List.forall_mem_cons]

end

/-- Lists of values are equal place by place. -/
theorem equalElements_iff {as bs : List Value} :
    equalElements as bs = true ↔ List.Forall₂ (fun a b => a.equals b = true) as bs := by
  induction as generalizing bs with
  | nil => cases bs <;> simp [equalElements]
  | cons a as ih =>
    cases bs with
    | nil => simp [equalElements]
    | cons b bs => rw [equalElements, Bool.and_eq_true, ih, List.forall₂_cons]

end Value

/-! ## Lists of entries -/

section Entries

variable {α β : Type} {R : β → β → Prop} {as bs : List (α × β)}

/-- In lists with the same keys in the same places a key is found in both of them or in neither. -/
theorem OrderedMap.rel_findIn? [Ord α]
    (h : List.Forall₂ (fun a b => a.1 = b.1 ∧ R a.2 b.2) as bs) (k : α) :
    Option.Rel R (findIn? k as) (findIn? k bs) := by
  induction h with
  | nil => exact .none
  | cons head tail ih =>
    obtain ⟨sameKey, related⟩ := head
    rw [findIn?, findIn?, sameKey]
    split
    · exact .some related
    · exact ih

theorem forall₂_of_keys_eq (keys : as.map Prod.fst = bs.map Prod.fst)
    (related : ∀ a ∈ as, ∀ b ∈ bs, a.1 = b.1 → R a.2 b.2) :
    List.Forall₂ (fun a b => a.1 = b.1 ∧ R a.2 b.2) as bs := by
  induction as generalizing bs with
  | nil =>
    obtain rfl := List.map_eq_nil_iff.1 keys.symm
    exact .nil
  | cons a as ih =>
    cases bs with
    | nil => cases keys
    | cons b bs =>
      obtain ⟨sameKey, sameKeys⟩ := List.cons.inj keys
      have head := related a List.mem_cons_self b List.mem_cons_self sameKey
      refine .cons ⟨sameKey, head⟩ (ih sameKeys fun a' inAs b' inBs => ?_)
      exact related a' (List.mem_cons_of_mem a inAs) b' (List.mem_cons_of_mem b inBs)

end Entries

namespace OrderedMap

variable {α β : Type} [Ord α] [TransOrd α] [LawfulEqOrd α] {R : β → β → Prop}
  {m n : OrderedMap α β}

/-- Maps with the same keys list them in the same order. -/
theorem keys_eq_of_contains (same : ∀ k, m.contains k = n.contains k) : m.keys = n.keys := by
  have increasing : ∀ m : OrderedMap α β, m.keys.Pairwise fun k l => compare k l = .lt :=
    fun m => List.pairwise_map.2 m.increasing
  refine eq_of_increasing (f := id) (increasing m) (increasing n) fun k => ?_
  rw [mem_keys_iff, mem_keys_iff, same]

/-- The entries of two maps are related one by one when the maps have the same keys, and under each
of them related values. -/
theorem forall₂_entries_iff :
    List.Forall₂ (fun a b => a.1 = b.1 ∧ R a.2 b.2) m.entries n.entries ↔
      (∀ k, m.contains k = n.contains k) ∧
        ∀ k v w, m.find? k = some v → n.find? k = some w → R v w := by
  constructor
  · intro same
    have related : ∀ k, Option.Rel R (m.find? k) (n.find? k) := rel_findIn? same
    constructor
    · intro k
      have found := related k
      rw [contains, contains]
      generalize m.find? k = x, n.find? k = y at found ⊢
      cases found <;> rfl
    · intro k v w here there
      have values := related k
      rw [here, there] at values
      cases values with
      | some relatedValues => exact relatedValues
  · rintro ⟨sameKeys, sameValues⟩
    refine forall₂_of_keys_eq (keys_eq_of_contains sameKeys) fun a inM b inN sameKey => ?_
    have here : m.find? a.1 = some a.2 := find?_eq_some_iff_mem.2 inM
    have there : n.find? b.1 = some b.2 := find?_eq_some_iff_mem.2 inN
    rw [← sameKey] at there
    exact sameValues a.1 a.2 b.2 here there

/-- Equality of ordered maps: as many entries, and place by place the same key with equal values. -/
def equals [BEq α] (eq : β → β → Bool) (m n : OrderedMap α β) : Bool :=
  m.size == n.size && (m.entries.zip n.entries).all fun e => e.1.1 == e.2.1 && eq e.1.2 e.2.2

/-- Maps are equal when they have the same keys, and under each of them equal values. -/
theorem equals_iff [BEq α] [LawfulBEq α] {eq : β → β → Bool} :
    m.equals eq n = true ↔ (∀ k, m.contains k = n.contains k) ∧
      ∀ k v w, m.find? k = some v → n.find? k = some w → eq v w = true := by
  rw [← forall₂_entries_iff (R := fun v w => eq v w = true), List.forall₂_iff_zip, equals,
    Bool.and_eq_true, beq_iff_eq]
  refine and_congr_right fun _ => ?_
  simp only [List.all_eq_true, Bool.and_eq_true, beq_iff_eq]
  exact ⟨fun places a b mem => places (a, b) mem, fun places e mem => places mem⟩

end OrderedMap

namespace Document

variable {d e : Document}

/-! ## Equal documents -/

/-- The settings of equal documents are equal one by one. -/
theorem equals_iff_forall₂ :
    d.equals e = true ↔ List.Forall₂ (fun a b => a.1 = b.1 ∧ a.2.equals b.2 = true)
      d.settings.entries e.settings.entries := by
  rw [equals, Bool.and_eq_true, beq_iff_eq, Value.equalElements_iff, OrderedMap.keys,
    OrderedMap.keys]
  generalize d.settings.entries = as, e.settings.entries = bs
  induction as generalizing bs with
  | nil => cases bs <;> simp
  | cons a as ih =>
    cases bs with
    | nil => simp
    | cons b bs =>
      simp only [List.map_cons, List.cons.injEq, List.forall₂_cons, ← ih, and_assoc,
        and_left_comm]

/-- Documents are equal when they have the same keys, and under each of them equal values. -/
theorem equals_iff :
    d.equals e = true ↔ (∀ k, d.contains k = e.contains k) ∧
      ∀ k v w, d.find? k = some v → e.find? k = some w → v.equals w = true :=
  equals_iff_forall₂.trans (OrderedMap.forall₂_entries_iff (R := fun v w => Value.equals v w = true))

/-- A document equals itself unless there is something in it that is no number. -/
theorem equals_self_iff : d.equals d = true ↔ ∀ k v, d.find? k = some v → ¬ v.HasNan := by
  rw [equals_iff]
  constructor
  · rintro ⟨-, sameValues⟩ k v found
    exact (Value.equals_self_iff v).1 (sameValues k v v found found)
  · intro numbers
    refine ⟨fun k => rfl, fun k v w here there => ?_⟩
    obtain rfl := Option.some.inj (here.symm.trans there)
    exact (Value.equals_self_iff v).2 (numbers k v here)

end Document

end TypedSettings
