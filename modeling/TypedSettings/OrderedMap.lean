/-!
# Ordered finite maps

An `OrderedMap α β` is the strictly increasing list of its entries. Equal maps therefore have
equal lists, and listing a map needs no sorting. `find?_insert` says what insertion does to
look-ups, and `ext_find?` that look-ups determine the map.
-/

namespace TypedSettings
set_option autoImplicit false

open Std (TransOrd LawfulEqOrd TransCmp OrientedCmp)

/-- A finite map held as its entries in strictly increasing order of their keys. -/
structure OrderedMap (α β : Type) [Ord α] where
  entries : List (α × β)
  increasing : entries.Pairwise fun a b => compare a.1 b.1 = .lt

namespace OrderedMap

variable {α β : Type} [Ord α]

/-! ## Entries -/

/-- Puts an entry at its place, in place of one with the same key. -/
def insertEntry (k : α) (v : β) : List (α × β) → List (α × β)
  | [] => [(k, v)]
  | (l, w) :: rest =>
    match compare k l with
    | .lt => (k, v) :: (l, w) :: rest
    | .eq => (k, v) :: rest
    | .gt => (l, w) :: insertEntry k v rest

/-- The value of the first entry with the key. -/
def findIn? (k : α) : List (α × β) → Option β
  | [] => none
  | (l, w) :: rest => if compare k l = .eq then some w else findIn? k rest

theorem mem_insertEntry {k : α} {v : β} {e : α × β} {es : List (α × β)}
    (h : e ∈ insertEntry k v es) : e = (k, v) ∨ e ∈ es := by
  induction es with
  | nil => simpa [insertEntry] using h
  | cons d rest ih =>
    rw [insertEntry] at h
    split at h <;> grind

theorem pairwise_insertEntry [TransOrd α] {k : α} {v : β} {es : List (α × β)}
    (h : es.Pairwise fun a b => compare a.1 b.1 = .lt) :
    (insertEntry k v es).Pairwise fun a b => compare a.1 b.1 = .lt := by
  induction es with
  | nil => simp [insertEntry]
  | cons d rest ih =>
    obtain ⟨hd, hrest⟩ := List.pairwise_cons.1 h
    rw [insertEntry]
    split
    · next hlt =>
      refine List.pairwise_cons.2 ⟨fun e he => ?_, h⟩
      rcases List.mem_cons.1 he with rfl | he
      · exact hlt
      · exact TransCmp.lt_trans hlt (hd e he)
    · next heq =>
      exact List.pairwise_cons.2 ⟨fun e he => TransCmp.lt_of_eq_of_lt heq (hd e he), hrest⟩
    · next hgt =>
      refine List.pairwise_cons.2 ⟨fun e he => ?_, ih hrest⟩
      rcases mem_insertEntry he with rfl | he
      · exact OrientedCmp.lt_of_gt hgt
      · exact hd e he

theorem findIn?_insertEntry [TransOrd α] [LawfulEqOrd α] [DecidableEq α] {k l : α} {v : β}
    {es : List (α × β)} :
    findIn? l (insertEntry k v es) = if l = k then some v else findIn? l es := by
  induction es with
  | nil => simp [insertEntry, findIn?]
  | cons d rest ih =>
    simp only [insertEntry]
    split
    · simp [findIn?]
    · next heq =>
      rw [LawfulEqOrd.eq_of_compare heq]
      by_cases h : l = d.1 <;> simp [findIn?, h]
    · next hgt =>
      by_cases h : l = k
      · subst h
        simp [findIn?, hgt, ih]
      · by_cases hd : compare l d.1 = .eq <;> simp [findIn?, h, hd, ih]

theorem findIn?_eq_none_of_lt [TransOrd α] {k : α} {es : List (α × β)}
    (h : ∀ e ∈ es, compare k e.1 = .lt) : findIn? k es = none := by
  induction es with
  | nil => rfl
  | cons d rest ih =>
    have hd := h d (by simp)
    simp [findIn?, hd, ih fun e he => h e (by simp [he])]

theorem findIn?_eq_some_iff [TransOrd α] [LawfulEqOrd α] {k : α} {v : β} {es : List (α × β)}
    (h : es.Pairwise fun a b => compare a.1 b.1 = .lt) :
    findIn? k es = some v ↔ (k, v) ∈ es := by
  induction es with
  | nil => simp [findIn?]
  | cons d rest ih =>
    obtain ⟨hd, hrest⟩ := List.pairwise_cons.1 h
    by_cases hk : k = d.1
    · obtain ⟨l, w⟩ := d
      subst hk
      have hnot : (k, v) ∉ rest := fun hm => by simpa using hd _ hm
      simp [findIn?, hnot, eq_comm]
    · have hne : (k, v) ≠ d := fun e => hk (by simp [← e])
      simp [findIn?, hk, ih hrest, hne]

theorem length_insertEntry [TransOrd α] [LawfulEqOrd α] {k : α} {v : β} {es : List (α × β)}
    (h : es.Pairwise fun a b => compare a.1 b.1 = .lt) :
    (insertEntry k v es).length =
      if (findIn? k es).isSome then es.length else es.length + 1 := by
  induction es with
  | nil => simp [insertEntry, findIn?]
  | cons d rest ih =>
    obtain ⟨hd, hrest⟩ := List.pairwise_cons.1 h
    rw [insertEntry]
    split
    · next hlt =>
      have hnone := findIn?_eq_none_of_lt fun e he => TransCmp.lt_trans hlt (hd e he)
      simp [findIn?, hlt, hnone]
    · next heq => simp [findIn?, heq]
    · next hgt =>
      simp only [findIn?, hgt, List.length_cons, ih hrest, reduceCtorEq, ↓reduceIte]
      split <;> rfl

/-- Strictly increasing lists with the same elements are the same list. -/
theorem eq_of_increasing [TransOrd α] {γ : Type} {f : γ → α} {xs ys : List γ}
    (hx : xs.Pairwise fun a b => compare (f a) (f b) = .lt)
    (hy : ys.Pairwise fun a b => compare (f a) (f b) = .lt) (h : ∀ x, x ∈ xs ↔ x ∈ ys) :
    xs = ys := by
  have nodup : ∀ {zs : List γ}, zs.Pairwise (fun a b => compare (f a) (f b) = .lt) →
      zs.Nodup := fun hz => hz.imp fun hlt e => by simp [e] at hlt
  refine List.Perm.eq_of_pairwise (fun a b _ _ hab hba => ?_) hx hy
    ((List.perm_ext_iff_of_nodup (nodup hx) (nodup hy)).2 h)
  exact absurd hba (by rw [OrientedCmp.gt_of_lt hab]; decide)

/-! ## Maps -/

/-- The map without entries. -/
def empty : OrderedMap α β := ⟨[], .nil⟩

instance : Inhabited (OrderedMap α β) := ⟨empty⟩

/-- The value at a key, if there is one. -/
def find? (m : OrderedMap α β) (k : α) : Option β := findIn? k m.entries

/-- There is a value at the key. -/
def contains (m : OrderedMap α β) (k : α) : Bool := (m.find? k).isSome

/-- The number of entries. -/
def size (m : OrderedMap α β) : Nat := m.entries.length

/-- The keys in increasing order. -/
def keys (m : OrderedMap α β) : List α := m.entries.map Prod.fst

/-- The map with a value at a key, in place of the one there was. -/
def insert [TransOrd α] (m : OrderedMap α β) (k : α) (v : β) : OrderedMap α β :=
  ⟨insertEntry k v m.entries, pairwise_insertEntry m.increasing⟩

/-- In a map of maps, the value under an outer and an inner key, if there is one. -/
def inner? {γ : Type} [Ord β] (m : OrderedMap α (OrderedMap β γ)) (a : α) (b : β) : Option γ :=
  (m.find? a).bind (·.find? b)

/-- In a map of maps, the number of values, added up over the inner maps. -/
def innerSize {γ : Type} [Ord β] (m : OrderedMap α (OrderedMap β γ)) : Nat :=
  m.entries.foldr (fun e n => e.2.size + n) 0

/-- The map of a list of entries; of two with the same key the later one counts. -/
def ofList [TransOrd α] (es : List (α × β)) : OrderedMap α β :=
  es.foldl (fun m e => m.insert e.1 e.2) empty

@[ext] theorem ext_entries {m n : OrderedMap α β} (h : m.entries = n.entries) : m = n := by
  cases m; cases n; simp_all

instance [DecidableEq α] [DecidableEq β] : DecidableEq (OrderedMap α β) := fun m n =>
  decidable_of_iff (m.entries = n.entries) ⟨ext_entries, fun h => congrArg entries h⟩

@[simp] theorem find?_empty (k : α) : (empty : OrderedMap α β).find? k = none := rfl

@[simp] theorem entries_empty : (empty : OrderedMap α β).entries = [] := rfl

@[simp] theorem size_empty : (empty : OrderedMap α β).size = 0 := rfl

/-- A map lists each of its keys once. -/
theorem nodup_keys [LawfulEqOrd α] (m : OrderedMap α β) : m.keys.Nodup := by
  refine List.pairwise_map.2 (m.increasing.imp fun less same => ?_)
  rw [same, Std.compare_self] at less
  cases less

section Insert

variable [TransOrd α]

@[simp] theorem entries_insert (m : OrderedMap α β) (k : α) (v : β) :
    (m.insert k v).entries = insertEntry k v m.entries := rfl

@[simp] theorem ofList_nil : ofList ([] : List (α × β)) = empty := rfl

theorem ofList_append_singleton (es : List (α × β)) (k : α) (v : β) :
    ofList (es ++ [(k, v)]) = (ofList es).insert k v := by
  simp [ofList, List.foldl_append]

variable [LawfulEqOrd α]

theorem find?_insert [DecidableEq α] (m : OrderedMap α β) (k l : α) (v : β) :
    (m.insert k v).find? l = if l = k then some v else m.find? l :=
  findIn?_insertEntry

@[simp] theorem find?_insert_self (m : OrderedMap α β) (k : α) (v : β) :
    (m.insert k v).find? k = some v := by
  classical simp [find?_insert]

theorem find?_insert_of_ne (m : OrderedMap α β) {k l : α} (v : β) (h : l ≠ k) :
    (m.insert k v).find? l = m.find? l := by
  classical simp [find?_insert, h]

theorem find?_eq_some_iff_mem {m : OrderedMap α β} {k : α} {v : β} :
    m.find? k = some v ↔ (k, v) ∈ m.entries :=
  findIn?_eq_some_iff m.increasing

theorem mem_keys_iff {m : OrderedMap α β} {k : α} : k ∈ m.keys ↔ m.contains k = true := by
  simp only [keys, contains, List.mem_map, Option.isSome_iff_exists, find?_eq_some_iff_mem]
  exact ⟨fun ⟨e, he, hk⟩ => ⟨e.2, by simpa [← hk] using he⟩, fun ⟨v, hv⟩ => ⟨(k, v), hv, rfl⟩⟩

theorem mem_keys_of_find? {m : OrderedMap α β} {k : α} {v : β} (found : m.find? k = some v) :
    k ∈ m.keys := by
  rw [mem_keys_iff, contains, found, Option.isSome_some]

/-- Look-ups determine an ordered map. -/
theorem ext_find? {m n : OrderedMap α β} (h : ∀ k, m.find? k = n.find? k) : m = n := by
  refine ext_entries (eq_of_increasing m.increasing n.increasing fun e => ?_)
  have := @find?_eq_some_iff_mem _ _ _ _ _ m e.1 e.2
  rw [h, find?_eq_some_iff_mem] at this
  exact this.symm

/-- In a map of maps an entry is put into the inner map at its key, which is made when it is not
there. -/
theorem inner?_insert {α β γ : Type} [Ord α] [TransOrd α] [LawfulEqOrd α] [DecidableEq α]
    [Ord β] [TransOrd β] [LawfulEqOrd β] [DecidableEq β] (m : OrderedMap α (OrderedMap β γ))
    (k l : α) (i j : β) (v : γ) :
    (m.insert k (((m.find? k).getD empty).insert i v)).inner? l j =
      if l = k ∧ j = i then some v else m.inner? l j := by
  rw [inner?, inner?, find?_insert]
  by_cases outer : l = k
  · subst outer
    rw [if_pos rfl, Option.bind_some, find?_insert]
    by_cases inner : j = i
    · rw [if_pos inner, if_pos ⟨rfl, inner⟩]
    · rw [if_neg inner, if_neg fun both => inner both.2]
      -- an inner map that is not there holds nothing, as the empty one that is made for it
      cases m.find? l <;> rfl
  · rw [if_neg outer, if_neg fun both => outer both.1]

/-- Insertions at different keys commute. -/
theorem insert_comm (m : OrderedMap α β) {k l : α} (v w : β) (h : k ≠ l) :
    (m.insert k v).insert l w = (m.insert l w).insert k v := by
  classical
  apply ext_find?
  intro j
  simp only [find?_insert]
  by_cases hk : j = k <;> by_cases hl : j = l <;> simp_all

/-- Of two insertions at one key the later one counts. -/
theorem insert_insert (m : OrderedMap α β) (k : α) (v w : β) :
    (m.insert k v).insert k w = m.insert k w := by
  classical
  apply ext_find?
  intro j
  by_cases hk : j = k <;> simp [find?_insert, hk]

/-- Nothing changes when the value at a key is put there again. -/
theorem insert_of_find? {m : OrderedMap α β} {k : α} {v : β} (found : m.find? k = some v) :
    m.insert k v = m := by
  classical
  apply ext_find?
  intro l
  by_cases hl : l = k <;> simp [find?_insert, hl, found]

/-- A new key adds one entry, a known one none. -/
theorem size_insert (m : OrderedMap α β) (k : α) (v : β) :
    (m.insert k v).size = if m.contains k then m.size else m.size + 1 :=
  length_insertEntry m.increasing

end Insert

end OrderedMap

end TypedSettings
