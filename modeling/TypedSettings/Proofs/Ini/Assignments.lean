import TypedSettings.Ini.Sections
import TypedSettings.Proofs.Listings

/-!
# What the lines of a text assign

The lines of a text are read one by one, and the sections hold under a section and a key the raw
value of the last line that assigns that key while the section is the current one.
-/

namespace TypedSettings.Ini
set_option autoImplicit false

/-- The raw value under a section and a key. -/
def Sections.raw? (sections : Sections) (name : String × String) : Option (Option String) :=
  sections.inner? name.1 name.2

/-- The raw values that lines assign after a header, under their sections and keys in the order of
the lines. -/
def assignments : String → List Line → List ((String × String) × Option String)
  | _, [] => []
  | current, .blank :: rest => assignments current rest
  | _, .header name :: rest => assignments (String.ofList name) rest
  | current, .assignment key value :: rest =>
    ((current, String.ofList key), value.map String.ofList) :: assignments current rest

/-- Assignments do not leave the current section. -/
theorem assignments_append (current : String) (pairs : List (List Char × Option (List Char)))
    (rest : List Line) :
    assignments current (pairs.map (fun e => .assignment e.1 e.2) ++ rest) =
      pairs.map (fun e => ((current, String.ofList e.1), e.2.map String.ofList)) ++
        assignments current rest := by
  induction pairs with
  | nil => rfl
  | cons e pairs ih =>
    rw [List.map_cons, List.map_cons, List.cons_append, List.cons_append, assignments, ih]

/-- What is assigned stands in an assignment, under the first section or one that a header opens. -/
theorem mem_assignments {current : String} {ls : List Line} {name item : String}
    {raw : Option String} (h : ((name, item), raw) ∈ assignments current ls) :
    (name = current ∨ ∃ cs, .header cs ∈ ls ∧ name = String.ofList cs) ∧
      ∃ key value, .assignment key value ∈ ls ∧ item = String.ofList key ∧
        raw = value.map String.ofList := by
  induction ls generalizing current with
  | nil => cases h
  | cons line ls ih =>
    have later : ∀ {first : String}, ((name, item), raw) ∈ assignments first ls →
        (name = first ∨ ∃ cs, .header cs ∈ line :: ls ∧ name = String.ofList cs) ∧
          ∃ key value, .assignment key value ∈ line :: ls ∧ item = String.ofList key ∧
            raw = value.map String.ofList := by
      intro first mem
      obtain ⟨opened, key, value, inLines, itemRead, rawRead⟩ := ih mem
      refine ⟨opened.imp_right ?_, key, value, List.mem_cons_of_mem _ inLines, itemRead, rawRead⟩
      rintro ⟨cs, header, nameRead⟩
      exact ⟨cs, List.mem_cons_of_mem _ header, nameRead⟩
    cases line with
    | blank => exact later h
    | header cs =>
      obtain ⟨opened, assigned⟩ := later h
      refine ⟨.inr ?_, assigned⟩
      rcases opened with here | there
      · exact ⟨cs, List.mem_cons_self .., here⟩
      · exact there
    | assignment key value =>
      rcases List.mem_cons.1 h with same | mem
      · obtain ⟨names, rawRead⟩ := Prod.mk.inj same
        obtain ⟨nameRead, itemRead⟩ := Prod.mk.inj names
        exact ⟨.inl nameRead, key, value, List.mem_cons_self .., itemRead, rawRead⟩
      · exact later mem

namespace Reading

variable {r : Reading} {ls : List Line}

/-! ## Lines taken in -/

/-- Lines are taken in when each of them can be read. -/
theorem addLines_eq_ok_iff {number : Nat} {texts : List (List Char)} {result : Reading} :
    r.addLines number texts = .ok result ↔
      ∃ ls : List Line, texts.map Line.read = ls.map .ok ∧ result = ls.foldl add r := by
  induction texts generalizing r number with
  | nil =>
    constructor
    · intro done
      obtain rfl := Except.ok.inj done
      exact ⟨[], rfl, rfl⟩
    · rintro ⟨ls, all, rfl⟩
      obtain rfl := List.map_eq_nil_iff.1 all.symm
      rfl
  | cons cs texts ih =>
    rw [addLines]
    cases said : Line.read cs with
    | error fault =>
      constructor
      · intro done
        cases done
      · rintro ⟨ls, all, -⟩
        rw [List.map_cons, said] at all
        cases ls with
        | nil => cases all
        | cons line ls => cases (List.cons.inj all).1
    | ok line =>
      dsimp only
      rw [ih]
      constructor
      · rintro ⟨ls, all, rfl⟩
        refine ⟨line :: ls, ?_, rfl⟩
        rw [List.map_cons, List.map_cons, said, all]
      · rintro ⟨ls, all, rfl⟩
        rw [List.map_cons, said] at all
        cases ls with
        | nil => cases all
        | cons first ls =>
          obtain ⟨same, rest⟩ := List.cons.inj all
          obtain rfl := Except.ok.inj same
          exact ⟨ls, rest, rfl⟩

/-! ## What the sections hold -/

/-- An assignment holds its own raw value, and under other names what was held before. -/
theorem raw?_assign (r : Reading) (key : String) (value : Option String) (name : String × String) :
    (r.assign key value).sections.raw? name =
      ([((r.current, key), value)].lookup name).or (r.sections.raw? name) := by
  unfold assign Sections.raw?
  dsimp only
  rw [OrderedMap.inner?_insert]
  by_cases same : name = (r.current, key)
  · subst same
    rw [if_pos ⟨rfl, rfl⟩, List.lookup_cons_self, Option.some_or]
  · rw [if_neg fun both => same (Prod.ext both.1 both.2), lookup_singleton_of_ne same, Option.none_or]

/-- After lines were taken in, the last assignment under a name counts. -/
theorem raw?_foldl_add (name : String × String) :
    (ls.foldl add r).sections.raw? name =
      ((assignments r.current ls).reverse.lookup name).or (r.sections.raw? name) := by
  induction ls generalizing r with
  | nil => rfl
  | cons line ls ih =>
    rw [List.foldl_cons, ih]
    cases line with
    | blank => rfl
    | header name => rfl
    | assignment key value =>
      rw [add, raw?_assign, assignments, List.reverse_cons, List.lookup_append, Option.or_assoc]
      rfl

end Reading

/-- The sections of a text whose lines can be read hold the last assignments. -/
theorem readSections_eq_ok_iff {text : String} {sections : Sections} :
    readSections text = .ok sections ↔
      ∃ ls : List Line, (lines text).map Line.read = ls.map .ok ∧
        sections = (ls.foldl Reading.add Reading.start).sections := by
  have taken : ∀ result, Reading.start.addLines 1 (lines text) = .ok result ↔
      ∃ ls : List Line, (lines text).map Line.read = ls.map .ok ∧
        result = ls.foldl Reading.add .start :=
    fun _ => Reading.addLines_eq_ok_iff
  unfold readSections
  cases found : Reading.start.addLines 1 (lines text) with
  | error fault =>
    rw [found] at taken
    constructor
    · intro done
      cases done
    · rintro ⟨ls, all, -⟩
      cases (taken _).2 ⟨ls, all, rfl⟩
  | ok result =>
    rw [found] at taken
    constructor
    · intro done
      obtain rfl := Except.ok.inj done
      obtain ⟨ls, all, rfl⟩ := (taken result).1 rfl
      exact ⟨ls, all, rfl⟩
    · rintro ⟨ls, all, rfl⟩
      obtain rfl := Except.ok.inj ((taken _).2 ⟨ls, all, rfl⟩)
      rfl

theorem raw?_foldl_start (ls : List Line) (name : String × String) :
    (ls.foldl Reading.add Reading.start).sections.raw? name =
      (assignments defaultGroupName ls).reverse.lookup name := by
  rw [Reading.raw?_foldl_add]
  show ((assignments defaultGroupName ls).reverse.lookup name).or none = _
  rw [Option.or_none]

end TypedSettings.Ini
