import TypedSettings.Document

/-!
# Maps of lists

A map or a document that is filled from a list holds under each key the value of the last entry
with that key. When the list never gives one key two values, the order of its entries does not
matter and what the map holds is what the list has.
-/

namespace TypedSettings
set_option autoImplicit false

variable {α β : Type}

/-! ## Lists of entries -/

/-- No key has two values. -/
def Functional (es : List (α × β)) : Prop := ∀ k v w, (k, v) ∈ es → (k, w) ∈ es → v = w

section Lookup

variable [BEq α] [LawfulBEq α] {es : List (α × β)} {k : α} {v : β}

theorem mem_of_lookup (h : es.lookup k = some v) : (k, v) ∈ es := by
  obtain ⟨before, after, rfl, -⟩ := List.lookup_eq_some_iff.1 h
  exact List.mem_append_right _ (List.mem_cons_self ..)

theorem lookup_singleton_of_ne {l : α} (other : l ≠ k) : [(k, v)].lookup l = none := by
  rw [List.lookup_cons, beq_eq_false_iff_ne.2 other]
  rfl

theorem mem_of_lookup_reverse (h : es.reverse.lookup k = some v) : (k, v) ∈ es :=
  List.mem_reverse.1 (mem_of_lookup h)

/-- In a list without a second value for a key each entry is found. -/
theorem lookup_reverse_eq_some_iff (h : Functional es) :
    es.reverse.lookup k = some v ↔ (k, v) ∈ es := by
  constructor
  · exact mem_of_lookup_reverse
  · intro mem
    have present : (es.reverse.lookup k).isSome = true :=
      List.lookup_isSome_iff.2 ⟨(k, v), List.mem_reverse.2 mem, beq_self_eq_true k⟩
    obtain ⟨w, found⟩ := Option.isSome_iff_exists.1 present
    rw [found, h k w v (mem_of_lookup_reverse found) mem]

end Lookup

/-! ## Ordered maps -/

namespace OrderedMap

variable [Ord α] [Std.TransOrd α] [Std.LawfulEqOrd α] [BEq α] [LawfulBEq α]

/-- An insertion holds its own value, and under other keys what was held before. -/
theorem find?_insert_eq_or (m : OrderedMap α β) (k l : α) (v : β) :
    (m.insert k v).find? l = ([(k, v)].lookup l).or (m.find? l) := by
  by_cases same : l = k
  · rw [same, find?_insert_self, List.lookup_cons_self, Option.some_or]
  · rw [find?_insert_of_ne m v same, lookup_singleton_of_ne same, Option.none_or]

/-- Of several insertions the last one at a key counts. -/
theorem find?_foldl_insert (es : List (α × β)) (m : OrderedMap α β) (k : α) :
    (es.foldl (fun m e => m.insert e.1 e.2) m).find? k = (es.reverse.lookup k).or (m.find? k) := by
  induction es generalizing m with
  | nil => rfl
  | cons e es ih =>
    rw [List.foldl_cons, ih, find?_insert_eq_or, List.reverse_cons, List.lookup_append,
      Option.or_assoc]

theorem find?_ofList (es : List (α × β)) (k : α) : (ofList es).find? k = es.reverse.lookup k := by
  rw [ofList, find?_foldl_insert, find?_empty, Option.or_none]

end OrderedMap

/-! ## Documents -/

namespace Document

theorem settings_foldl_set (es : List (Key × Value)) (d : Document) :
    (es.foldl (fun d e => d.set e.1 e.2) d).settings =
      es.foldl (fun m e => m.insert e.1 e.2) d.settings := by
  induction es generalizing d with
  | nil => rfl
  | cons e es ih =>
    rw [List.foldl_cons, List.foldl_cons, ih]
    rfl

theorem foldl_set_empty (es : List (Key × Value)) :
    es.foldl (fun d e => d.set e.1 e.2) empty = ofList es := by
  have same := settings_foldl_set es empty
  rw [ofList, OrderedMap.ofList]
  exact congrArg mk same

/-- The document of a list holds at a key the value of the last setting with that key. -/
theorem find?_ofList (es : List (Key × Value)) (k : Key) :
    (ofList es).find? k = es.reverse.lookup k :=
  OrderedMap.find?_ofList es k

/-- The document of a list without a second value for a key holds the settings of the list. -/
theorem find?_ofList_eq_some_iff {es : List (Key × Value)} (h : Functional es) {k : Key}
    {v : Value} : (ofList es).find? k = some v ↔ (k, v) ∈ es := by
  rw [find?_ofList, lookup_reverse_eq_some_iff h]

end Document

end TypedSettings
