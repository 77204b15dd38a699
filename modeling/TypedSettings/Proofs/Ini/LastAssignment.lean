import TypedSettings.Proofs.Document.Listing
import TypedSettings.Proofs.Ini.Documents

/-!
# The last assignment of a key

Each line that assigns does so in the section that is current there: the one of the last header
before it, and the default one before any header. What the sections hold after all lines is what the
last line for each name assigned, and the document holds the value of it under the key that the name
stands for.
-/

namespace TypedSettings.Ini
set_option autoImplicit false

/-- A value stands at a place, and none at a later one. -/
structure IsLast {α : Type} (P : Nat → α → Prop) (n : Nat) (a : α) : Prop where
  holds : P n a
  last : ∀ m b, P m b → m ≤ n

/-! ## Lines that assign -/

/-- The name of the section that a header opens. -/
def Line.opens? : Line → Option String
  | .header name => some (String.ofList name)
  | _ => none

/-- The line assigns a raw value to a name in the current section. -/
def Line.Assigns (line : Line) (current : String) (name : String × String) (raw : Option String) :
    Prop :=
  ∃ key value, line = .assignment key value ∧ (current, String.ofList key) = name ∧
    value.map String.ofList = raw

/-- The section that is current after lines. -/
def currentAfter (ls : List Line) : String :=
  ((ls.filterMap Line.opens?).getLast?).getD defaultGroupName

/-- The line at a place assigns a raw value to a name, in the section that is current there. -/
def Assigns (ls : List Line) (name : String × String) (n : Nat) (raw : Option String) : Prop :=
  ∃ line, ls[n]? = some line ∧ line.Assigns (currentAfter (ls.take n)) name raw

variable {ls : List Line} {line : Line} {name : String × String} {raw other : Option String}
  {n m : Nat} {k : Key}

/-! ## One more line -/

theorem currentAfter_concat (ls : List Line) (line : Line) :
    currentAfter (ls ++ [line]) = (line.opens?).getD (currentAfter ls) := by
  rw [currentAfter, List.filterMap_append]
  cases opens : line.opens? with
  | none => rw [List.filterMap_cons_none opens, List.filterMap_nil, List.append_nil]; rfl
  | some name => rw [List.filterMap_cons_some opens, List.filterMap_nil, List.getLast?_concat]; rfl

theorem Line.Assigns.raw_eq {current : String} (h : line.Assigns current name raw)
    (k : line.Assigns current name other) : raw = other := by
  obtain ⟨key, value, rfl, -, rfl⟩ := h
  obtain ⟨key', value', same, -, rfl⟩ := k
  obtain ⟨-, rfl⟩ := Line.assignment.inj same
  rfl

theorem Assigns.lt_length (h : Assigns ls name n raw) : n < ls.length := by
  obtain ⟨line, found, -⟩ := h
  exact (List.getElem?_eq_some_iff.1 found).1

/-- One more line leaves the assignments before it, and may be one itself. -/
theorem assigns_concat :
    Assigns (ls ++ [line]) name n raw ↔
      Assigns ls name n raw ∨ (n = ls.length ∧ line.Assigns (currentAfter ls) name raw) := by
  constructor
  · rintro ⟨found, at_n, assigns⟩
    have inside : n < ls.length + 1 := by
      have bound := (List.getElem?_eq_some_iff.1 at_n).1
      rwa [List.length_append] at bound
    rcases Nat.lt_succ_iff_lt_or_eq.1 inside with before | rfl
    · rw [List.getElem?_append_left before] at at_n
      rw [List.take_append_of_le_length (Nat.le_of_lt before)] at assigns
      exact .inl ⟨found, at_n, assigns⟩
    · rw [List.getElem?_concat_length] at at_n
      obtain rfl := Option.some.inj at_n
      rw [List.take_left] at assigns
      exact .inr ⟨rfl, assigns⟩
  · rintro (h | ⟨rfl, assigns⟩)
    · have before := h.lt_length
      obtain ⟨found, at_n, assigns⟩ := h
      refine ⟨found, ?_, ?_⟩
      · rw [List.getElem?_append_left before, at_n]
      · rw [List.take_append_of_le_length (Nat.le_of_lt before)]
        exact assigns
    · refine ⟨line, List.getElem?_concat_length, ?_⟩
      rw [List.take_left]
      exact assigns

/-- The last assignment is that of one more line, or it stays when this line assigns nothing. -/
theorem exists_isLast_concat :
    (∃ n, IsLast (Assigns (ls ++ [line]) name) n raw) ↔
      line.Assigns (currentAfter ls) name raw ∨
        ((∀ other, ¬ line.Assigns (currentAfter ls) name other) ∧
          ∃ n, IsLast (Assigns ls name) n raw) := by
  constructor
  · rintro ⟨n, holds, last⟩
    by_cases assigns : ∃ other, line.Assigns (currentAfter ls) name other
    · obtain ⟨other, assigns⟩ := assigns
      -- the new line stands after all others, so the last assignment cannot be one of these
      have latest := last ls.length other (assigns_concat.2 (.inr ⟨rfl, assigns⟩))
      rcases assigns_concat.1 holds with before | ⟨-, here⟩
      · have := before.lt_length
        omega
      · exact .inl here
    · have silent := not_exists.1 assigns
      refine .inr ⟨silent, n, ?_, fun m other h => last m other (assigns_concat.2 (.inl h))⟩
      exact (assigns_concat.1 holds).resolve_right fun here => silent raw here.2
  · rintro (here | ⟨silent, n, holds, last⟩)
    · refine ⟨ls.length, assigns_concat.2 (.inr ⟨rfl, here⟩), fun m other h => ?_⟩
      rcases assigns_concat.1 h with before | ⟨rfl, -⟩
      · exact Nat.le_of_lt before.lt_length
      · exact Nat.le_refl _
    · refine ⟨n, assigns_concat.2 (.inl holds), fun m other h => ?_⟩
      rcases assigns_concat.1 h with before | ⟨-, here⟩
      · exact last m other before
      · exact absurd here (silent other)

/-! ## What the sections hold -/

/-- The sections after lines. -/
def sectionsAfter (ls : List Line) : Sections := (ls.foldl Reading.add .start).sections

theorem current_foldl_add (ls : List Line) :
    (ls.foldl Reading.add .start).current = currentAfter ls := by
  induction ls using List.reverseRecOn with
  | nil => rfl
  | append_singleton ls line ih =>
    rw [List.foldl_concat, currentAfter_concat, ← ih]
    cases line <;> rfl

theorem Reading.raw?_add_of_assigns {r : Reading} (h : line.Assigns r.current name raw) :
    (r.add line).sections.raw? name = some raw := by
  obtain ⟨key, value, rfl, rfl, rfl⟩ := h
  rw [add, raw?_assign, List.lookup_cons_self, Option.some_or]

theorem Reading.raw?_add_of_silent {r : Reading}
    (silent : ∀ other, ¬ line.Assigns r.current name other) :
    (r.add line).sections.raw? name = r.sections.raw? name := by
  cases line with
  | blank => rfl
  | header opened => rfl
  | assignment key value =>
    have differs : name ≠ (r.current, String.ofList key) :=
      fun same => silent _ ⟨key, value, rfl, same.symm, rfl⟩
    rw [add, raw?_assign, lookup_singleton_of_ne differs, Option.none_or]

/-- What one more line assigns is held, and what it does not assign stays. -/
theorem raw?_sectionsAfter_concat :
    (sectionsAfter (ls ++ [line])).raw? name = some raw ↔
      line.Assigns (currentAfter ls) name raw ∨
        ((∀ other, ¬ line.Assigns (currentAfter ls) name other) ∧
          (sectionsAfter ls).raw? name = some raw) := by
  rw [sectionsAfter, sectionsAfter, List.foldl_concat, ← current_foldl_add]
  by_cases assigns : ∃ other, line.Assigns (ls.foldl Reading.add .start).current name other
  · obtain ⟨other, here⟩ := assigns
    rw [Reading.raw?_add_of_assigns here, Option.some.injEq]
    constructor
    · rintro rfl
      exact .inl here
    · rintro (there | ⟨silent, -⟩)
      · exact here.raw_eq there
      · exact absurd here (silent other)
  · have silent := not_exists.1 assigns
    rw [Reading.raw?_add_of_silent silent]
    exact ⟨fun held => .inr ⟨silent, held⟩, fun h => (h.resolve_left (silent raw)).2⟩

/-- The sections hold under each name what the last line for it assigns. -/
theorem raw?_eq_some_iff_isLast :
    (sectionsAfter ls).raw? name = some raw ↔ ∃ n, IsLast (Assigns ls name) n raw := by
  induction ls using List.reverseRecOn with
  | nil =>
    constructor
    · intro held
      cases held
    · rintro ⟨n, ⟨line, found, -⟩, -⟩
      rw [List.getElem?_nil] at found
      cases found
  | append_singleton ls line ih => rw [raw?_sectionsAfter_concat, exists_isLast_concat, ih]

/-- What is assigned at all is held. -/
theorem Assigns.exists_raw? (h : Assigns ls name n raw) :
    ∃ held, (sectionsAfter ls).raw? name = some held := by
  induction ls using List.reverseRecOn with
  | nil => exact absurd h.lt_length (Nat.not_lt_zero n)
  | append_singleton ls line ih =>
    by_cases assigns : ∃ other, line.Assigns (currentAfter ls) name other
    · obtain ⟨other, here⟩ := assigns
      exact ⟨other, raw?_sectionsAfter_concat.2 (.inl here)⟩
    · have silent := not_exists.1 assigns
      have before := (assigns_concat.1 h).resolve_right fun here => silent raw here.2
      obtain ⟨held, found⟩ := ih before
      exact ⟨held, raw?_sectionsAfter_concat.2 (.inr ⟨silent, found⟩)⟩

/-! ## What the document holds -/

/-- No line of the section without a name assigns an item that a line of the default section
assigns too. -/
def Apart (ls : List Line) : Prop :=
  ∀ item n raw m other, Assigns ls ("", item) n raw → ¬ Assigns ls (defaultGroupName, item) m other

variable {v : Value}

theorem Apart.keepsApart (apart : Apart ls) : KeepsApart (sectionsAfter ls) := by
  intro item raw other here there
  obtain ⟨n, isLast⟩ := raw?_eq_some_iff_isLast.1 here
  obtain ⟨m, isLast'⟩ := raw?_eq_some_iff_isLast.1 there
  exact apart item n raw m other isLast.holds isLast'.holds

/-- Names that stand for one key and are both assigned are the same name. -/
theorem Apart.name_eq (apart : Apart ls) {name' : String × String} (h : Assigns ls name n raw)
    (h' : Assigns ls name' m other) (same : Key.of name.1 name.2 = Key.of name'.1 name'.2) :
    name = name' := by
  obtain ⟨opened, item⟩ := name
  obtain ⟨opened', item'⟩ := name'
  obtain ⟨rfl, sameGroup⟩ := Key.of_eq_of_iff.1 same
  obtain ⟨held, found⟩ := h.exists_raw?
  obtain ⟨held', found'⟩ := h'.exists_raw?
  obtain rfl := apart.keepsApart.name_eq found found' sameGroup
  rfl

end TypedSettings.Ini
