import Mathlib.Data.List.DropRight
import TypedSettings.Declarations
import TypedSettings.Proofs.Enumerations

/-!
# Declarations are written once

The declared kinds can be kept in one map or in two levels, a map of the groups that holds for each
group the kinds of its items. A declaration in two levels looks for the map of its group first, and
makes it when it is not there, before it is known whether anything is recorded. A key then has the
kind that was declared for it first, in both ways, and everything else that can be asked follows
from these kinds.
-/

namespace TypedSettings
set_option autoImplicit false

/-- What is done to declared kinds: a kind is declared for an item of a group, or all kinds are
dropped. -/
inductive DeclaredChange where
  | insert (group item : String) (kind : Kind)
  | clear
  deriving DecidableEq

namespace DeclaredChange

/-- All kinds are dropped. -/
def isClear : DeclaredChange → Bool
  | clear => true
  | insert .. => false

/-- The defined kind that is declared for a key. -/
def kindFor? (k : Key) : DeclaredChange → Option Kind
  | insert group item kind => if Key.of group item = k ∧ kind.isDefined then some kind else none
  | clear => none

theorem isDefined_of_kindFor? {c : DeclaredChange} {k : Key} {kind : Kind}
    (declared : c.kindFor? k = some kind) : kind.isDefined = true := by
  cases c with
  | clear => cases declared
  | insert group item other =>
    obtain ⟨⟨-, defined⟩, same⟩ := Option.ite_none_right_eq_some.1 declared
    exact Option.some.inj same ▸ defined

/-- The changes since all kinds were dropped last. -/
def sinceClear (cs : List DeclaredChange) : List DeclaredChange := cs.rtakeWhile fun c => !c.isClear

/-- The first defined kind that was declared for a key since then. -/
def firstKind? (cs : List DeclaredChange) (k : Key) : Option Kind :=
  (sinceClear cs).findSome? (kindFor? k)

variable (cs : List DeclaredChange) (k : Key)

theorem firstKind?_concat_clear : firstKind? (cs ++ [clear]) k = none := by
  rw [firstKind?, sinceClear, List.rtakeWhile_concat_neg]
  · rfl
  · exact Bool.false_ne_true

theorem firstKind?_concat_insert (group item : String) (kind : Kind) :
    firstKind? (cs ++ [insert group item kind]) k =
      (firstKind? cs k).or ((insert group item kind).kindFor? k) := by
  rw [firstKind?, sinceClear, List.rtakeWhile_concat_pos _ _ _ rfl, List.findSome?_append,
    List.findSome?_singleton]
  rfl

/-- A first kind is one that can be declared. -/
theorem isDefined_of_firstKind? {cs : List DeclaredChange} {k : Key} {kind : Kind}
    (first : firstKind? cs k = some kind) : kind.isDefined = true := by
  obtain ⟨c, -, declared⟩ := List.exists_of_findSome?_eq_some first
  exact isDefined_of_kindFor? declared

end DeclaredChange

/-! ## Ways to keep kinds -/

/-- A way to keep declared kinds: how they are changed, and what can be asked. They may be listed in
more than one order. -/
structure Keeping (σ : Type) where
  new : σ
  insert : σ → Key → Kind → Bool × σ
  kindOf : σ → Key → Kind
  contains : σ → Key → Bool
  Lists : σ → List (Key × Kind) → Prop
  size : σ → Nat
  isEmpty : σ → Bool

namespace Keeping

open DeclaredChange

variable {σ : Type} {K : Keeping σ} {kindAt? : σ → Key → Option Kind}

/-- What is kept after a change. -/
def change (K : Keeping σ) (s : σ) : DeclaredChange → σ
  | .insert group item kind => (K.insert s (.of group item) kind).2
  | .clear => K.new

/-- What is kept after some changes from nothing. -/
def after (K : Keeping σ) (cs : List DeclaredChange) : σ := cs.foldl K.change K.new

@[simp] theorem after_concat (K : Keeping σ) (cs : List DeclaredChange) (c : DeclaredChange) :
    K.after (cs ++ [c]) = K.change (K.after cs) c := by
  rw [after, after, List.foldl_append, List.foldl_cons, List.foldl_nil]

/-- What a way to keep kinds does in one step, told by the entry that it has for a key. -/
structure Lawful (K : Keeping σ) (kindAt? : σ → Key → Option Kind) : Prop where
  kindAt?_new : ∀ k, kindAt? K.new k = none
  accepts : ∀ s k kind, kind.isDefined = true → kindAt? s k = none →
    (K.insert s k kind).1 = true ∧
    ∀ l, kindAt? (K.insert s k kind).2 l = if l = k then some kind else kindAt? s l
  refuses : ∀ s k kind, ¬ (kind.isDefined = true ∧ kindAt? s k = none) →
    K.insert s k kind = (false, s)
  kindOf_eq : ∀ s k, K.kindOf s k = (kindAt? s k).getD .undefined
  contains_eq : ∀ s k, K.contains s k = (K.kindOf s k).isDefined
  exists_lists : ∀ s, ∃ l, K.Lists s l
  mem_iff : ∀ s l, K.Lists s l → ∀ k kind, (k, kind) ∈ l ↔ kindAt? s k = some kind
  nodup : ∀ s l, K.Lists s l → (l.map Prod.fst).Nodup
  length_eq : ∀ s l, K.Lists s l → l.length = K.size s
  isEmpty_eq : ∀ s, K.isEmpty s = (K.size s == 0)

/-- After some changes each key has the kind that was declared for it first. A declaration succeeds
when its kind is defined and the key has none, and otherwise nothing is changed. All that is asked
agrees with the kinds of the keys. -/
structure WritesOnce (K : Keeping σ) (cs : List DeclaredChange) : Prop where
  kindOf_eq : ∀ k, K.kindOf (K.after cs) k = (firstKind? cs k).getD .undefined
  insert_iff : ∀ k kind, (K.insert (K.after cs) k kind).1 = true ↔
    kind.isDefined = true ∧ firstKind? cs k = none
  unchanged : ∀ k kind, (K.insert (K.after cs) k kind).1 = false →
    (K.insert (K.after cs) k kind).2 = K.after cs
  contains_iff : ∀ k, K.contains (K.after cs) k = true ↔ K.kindOf (K.after cs) k ≠ .undefined
  exists_lists : ∃ l, K.Lists (K.after cs) l
  mem_iff : ∀ l, K.Lists (K.after cs) l → ∀ k kind,
    (k, kind) ∈ l ↔ kind ≠ .undefined ∧ K.kindOf (K.after cs) k = kind
  nodup : ∀ l, K.Lists (K.after cs) l → (l.map Prod.fst).Nodup
  length_eq : ∀ l, K.Lists (K.after cs) l → l.length = K.size (K.after cs)
  isEmpty_iff : K.isEmpty (K.after cs) = true ↔ K.size (K.after cs) = 0

theorem Lawful.insert_iff (h : K.Lawful kindAt?) (s : σ) (k : Key) (kind : Kind) :
    (K.insert s k kind).1 = true ↔ kind.isDefined = true ∧ kindAt? s k = none := by
  by_cases accepted : kind.isDefined = true ∧ kindAt? s k = none
  · exact iff_of_true (h.accepts s k kind accepted.1 accepted.2).1 accepted
  · rw [h.refuses s k kind accepted]
    exact iff_of_false Bool.false_ne_true accepted

/-- A declaration adds an entry for its key, unless there is one. -/
theorem Lawful.kindAt?_insert (h : K.Lawful kindAt?) (s : σ) (group item : String) (kind : Kind)
    (k : Key) :
    kindAt? (K.insert s (.of group item) kind).2 k =
      (kindAt? s k).or ((DeclaredChange.insert group item kind).kindFor? k) := by
  rw [kindFor?]
  by_cases accepted : kind.isDefined = true ∧ kindAt? s (.of group item) = none
  · rw [(h.accepts s _ kind accepted.1 accepted.2).2 k]
    by_cases same : k = .of group item
    · rw [if_pos same, if_pos ⟨same.symm, accepted.1⟩, same, accepted.2, Option.none_or]
    · rw [if_neg same, if_neg fun both => same both.1.symm, Option.or_none]
  · rw [h.refuses s _ kind accepted]
    split
    · next both =>
      have entered : kindAt? s k ≠ none := fun fresh => accepted ⟨both.2, both.1 ▸ fresh⟩
      rw [Option.or_of_isSome (Option.isSome_iff_ne_none.2 entered)]
    · rw [Option.or_none]

/-- After some changes the entry of a key is its first kind. -/
theorem Lawful.kindAt?_after (h : K.Lawful kindAt?) (cs : List DeclaredChange) (k : Key) :
    kindAt? (K.after cs) k = firstKind? cs k := by
  induction cs using List.reverseRecOn with
  | nil => exact h.kindAt?_new k
  | append_singleton cs c ih =>
    rw [after_concat]
    cases c with
    | clear => rw [firstKind?_concat_clear, change, h.kindAt?_new]
    | insert group item kind => rw [firstKind?_concat_insert, change, h.kindAt?_insert, ih]

theorem Lawful.writesOnce (h : K.Lawful kindAt?) (cs : List DeclaredChange) : K.WritesOnce cs := by
  have entered := h.kindAt?_after cs
  have kindOf_eq : ∀ k, K.kindOf (K.after cs) k = (firstKind? cs k).getD .undefined := fun k => by
    rw [h.kindOf_eq, entered]
  exact {
    kindOf_eq
    insert_iff := fun k kind => by
      rw [← entered, h.insert_iff]
    unchanged := fun k kind failed => by
      have refused := mt (h.insert_iff ..).2 (ne_true_of_eq_false failed)
      rw [h.refuses _ k kind refused]
    contains_iff := fun k => by rw [h.contains_eq, Kind.isDefined_eq_true_iff]
    exists_lists := h.exists_lists _
    mem_iff := fun l lists k kind => by
      rw [h.mem_iff _ l lists, entered, kindOf_eq]
      constructor
      · intro first
        rw [first]
        exact ⟨Kind.isDefined_eq_true_iff.1 (isDefined_of_firstKind? first), rfl⟩
      · rintro ⟨defined, rfl⟩
        exact (Option.getD_eq_iff.1 rfl).resolve_right fun absent => defined absent.2.symm
    nodup := h.nodup _
    length_eq := h.length_eq _
    isEmpty_iff := by rw [h.isEmpty_eq, beq_iff_eq] }

end Keeping

/-! ## One map -/

namespace Declarations

variable {d : Declarations} {k : Key} {kind : Kind}

/-- Records a kind unless it is refused. The answer says whether it is recorded. -/
def record (d : Declarations) (k : Key) (kind : Kind) : Bool × Declarations :=
  ((d.declare? k kind).isSome, (d.declare? k kind).getD d)

/-- The kinds in one map. -/
def keeping : Keeping Declarations where
  new := .empty
  insert := record
  kindOf := kindOf
  contains := contains
  Lists d l := l.Perm d.toList
  size := size
  isEmpty := isEmpty

theorem record_of_fresh (defined : kind.isDefined = true) (fresh : d.kinds.find? k = none) :
    d.record k kind = (true, ⟨d.kinds.insert k kind⟩) := by
  rw [record, declare?_of_fresh defined fresh, Option.isSome_some, Option.getD_some]

theorem record_of_refused (refused : ¬ (kind.isDefined = true ∧ d.kinds.find? k = none)) :
    d.record k kind = (false, d) := by
  have nothing : d.declare? k kind = none := by
    apply Option.eq_none_iff_forall_ne_some.2
    intro e recorded
    obtain ⟨defined, fresh, -⟩ := declare?_eq_some_iff.1 recorded
    exact refused ⟨defined, Option.isNone_iff_eq_none.1 (Option.isSome_eq_false_iff.1 fresh)⟩
  rw [record, nothing, Option.isSome_none, Option.getD_none]

theorem lawful_keeping : keeping.Lawful fun d k => d.kinds.find? k where
  kindAt?_new _ := rfl
  accepts d k kind defined fresh := by
    have recorded : keeping.insert d k kind = _ := record_of_fresh defined fresh
    rw [recorded]
    exact ⟨rfl, fun l => OrderedMap.find?_insert ..⟩
  refuses _ _ _ refused := record_of_refused refused
  kindOf_eq _ _ := rfl
  contains_eq _ _ := rfl
  exists_lists d := ⟨d.toList, .refl _⟩
  mem_iff d l lists k kind := by
    rw [lists.mem_iff, toList, OrderedMap.find?_eq_some_iff_mem]
  nodup d l lists := (lists.map Prod.fst).nodup_iff.2 d.kinds.nodup_keys
  length_eq d l lists := lists.length_eq
  isEmpty_eq _ := rfl

end Declarations

/-! ## Two levels -/

/-- The kinds of items by their names, for each group. -/
abbrev KindLevels := OrderedMap Group (OrderedMap String Kind)

namespace KindLevels

variable {m : KindLevels} {k : Key} {kind : Kind}

/-- The kind at a key, if there is one: that of the item in its group. -/
def kind? (m : KindLevels) (k : Key) : Option Kind := m.inner? k.group k.item

/-- Records a kind in the map of its group, which is made when it is not there. The answer says
whether it is recorded. -/
def record (m : KindLevels) (k : Key) (kind : Kind) : Bool × KindLevels :=
  if !kind.isDefined then (false, m)
  else
    let items := (m.find? k.group).getD .empty
    let made := m.insert k.group items
    if items.contains k.item then (false, made)
    else (true, made.insert k.group (items.insert k.item kind))

/-- The kinds in two levels. -/
def keeping : Keeping KindLevels where
  new := .empty
  insert := record
  kindOf m k := (m.kind? k).getD .undefined
  contains m k := ((m.kind? k).getD .undefined).isDefined
  Lists m l := ∃ levels, m.EnumeratedBy levels ∧
    l = (OrderedMap.paired levels).map fun e => (⟨e.1.1, e.1.2⟩, e.2)
  size m := m.innerSize
  isEmpty m := m.innerSize == 0

theorem record_of_fresh (defined : kind.isDefined = true) (fresh : m.kind? k = none) :
    m.record k kind =
      (true, m.insert k.group (((m.find? k.group).getD .empty).insert k.item kind)) := by
  have missing : ((m.find? k.group).getD .empty).contains k.item = false := by
    rw [kind?, OrderedMap.inner?] at fresh
    rw [OrderedMap.contains]
    cases found : m.find? k.group with
    | none => rfl
    | some items =>
      rw [found, Option.bind_some] at fresh
      rw [Option.getD_some, fresh, Option.isSome_none]
  simp only [record, defined, missing, OrderedMap.insert_insert, Bool.not_true, Bool.false_eq_true,
    if_false]

theorem record_of_refused (refused : ¬ (kind.isDefined = true ∧ m.kind? k = none)) :
    m.record k kind = (false, m) := by
  by_cases defined : kind.isDefined = true
  · obtain ⟨other, entered⟩ := Option.ne_none_iff_exists'.1 fun fresh => refused ⟨defined, fresh⟩
    obtain ⟨items, found, held⟩ := Option.bind_eq_some_iff.1 entered
    have known : items.contains k.item = true := by rw [OrderedMap.contains, held, Option.isSome_some]
    -- the map of the group is there already, so none is made
    simp only [record, defined, found, Option.getD_some, OrderedMap.insert_of_find? found, known,
      Bool.not_true, Bool.false_eq_true, if_false, if_true]
  · simp only [record, defined, Bool.not_false, if_true]

theorem lawful_keeping : keeping.Lawful kind? where
  kindAt?_new _ := rfl
  accepts m k kind defined fresh := by
    have recorded : keeping.insert m k kind = _ := record_of_fresh defined fresh
    rw [recorded]
    refine ⟨rfl, fun l => ?_⟩
    rw [kind?, OrderedMap.inner?_insert]
    exact if_congr Key.eq_iff.symm rfl rfl
  refuses _ _ _ refused := record_of_refused refused
  kindOf_eq _ _ := rfl
  contains_eq _ _ := rfl
  exists_lists m := ⟨_, _, m.enumeratedBy_entries, rfl⟩
  mem_iff m l lists k kind := by
    obtain ⟨levels, enumerated, rfl⟩ := lists
    rw [kind?, ← enumerated.mem_paired_iff, List.mem_map]
    constructor
    · rintro ⟨⟨⟨g, item⟩, kind⟩, mem, same⟩
      cases same
      exact mem
    · intro mem
      exact ⟨_, mem, rfl⟩
  nodup m l lists := by
    obtain ⟨levels, enumerated, rfl⟩ := lists
    have nodup := enumerated.nodup_paired.map (f := fun e => Key.mk e.1 e.2) fun _ _ same =>
      Prod.ext (Key.mk.inj same).1 (Key.mk.inj same).2
    rwa [List.map_map] at nodup ⊢
  length_eq m l lists := by
    obtain ⟨levels, enumerated, rfl⟩ := lists
    rw [List.length_map, enumerated.length_paired]
    rfl
  isEmpty_eq _ := rfl

end KindLevels

/-- In one map and in two levels, after every sequence of changes, each key has the kind that was
declared for it first since all kinds were dropped. A declaration succeeds when its kind is defined
and the key has none, and a refused one changes nothing. The listings, in every order, have each key
that has a kind once and nothing else, and as many entries as are counted. -/
theorem kinds_are_written_once (cs : List DeclaredChange) :
    Declarations.keeping.WritesOnce cs ∧ KindLevels.keeping.WritesOnce cs :=
  ⟨Declarations.lawful_keeping.writesOnce cs, KindLevels.lawful_keeping.writesOnce cs⟩

end TypedSettings
