import TypedSettings.Proofs.Registry.History

/-!
# Agreement of documents and declarations

A registry keeps values in one place and declared kinds in another. In every registry that a
program can reach the two agree: whatever is declared has a value, and the value has the declared
kind. So a getter meets no setting without a value, and what it answers depends on the declared
kind and on the reader alone.
-/

namespace TypedSettings
set_option autoImplicit false

namespace Registry

/-- Each declared setting holds a value of its declared kind. -/
def Agrees (r : Registry) : Prop :=
  ∀ k kind, r.declarations.kinds.find? k = some kind →
    ∃ v, r.document.find? k = some v ∧ v.kind? = some kind

theorem agrees_fresh (d : Document) (source : Option String) :
    Agrees ⟨d, .empty, true, source⟩ := by
  intro k kind declared
  cases declared

/-- Recording a declaration for a value of its kind keeps the agreement, whether the value was
there before or is filled in. -/
theorem Agrees.record {r : Registry} (agrees : r.Agrees) {k : Key} {kind : Kind} {v : Value}
    {ds : Declarations} {document : Document} (recorded : r.declarations.declare? k kind = some ds)
    (here : document.find? k = some v) (fits : v.kind? = some kind)
    (elsewhere : ∀ l, l ≠ k → document.find? l = r.document.find? l) (valid : Bool) :
    Agrees ⟨document, ds, valid, r.source⟩ := by
  intro l other declared
  rw [Declarations.find?_of_declare? recorded] at declared
  by_cases same : l = k
  · subst same
    rw [if_pos rfl] at declared
    obtain rfl := Option.some.inj declared
    exact ⟨v, here, fits⟩
  · rw [if_neg same] at declared
    obtain ⟨w, held, kinded⟩ := agrees l other declared
    exact ⟨w, by rw [elsewhere l same]; exact held, kinded⟩

/-- Every attempt keeps the agreement, whatever it is answered. -/
theorem Agrees.attempt {r : Registry} (agrees : r.Agrees) (a : Attempt) :
    (r.attempt a).state.Agrees := by
  have way := r.declaring_attempt a
  generalize r.attempt a = outcome at way ⊢
  cases way with
  | invalidDefault unfit => exact agrees
  | mismatch fit held differs => exact agrees
  | repeated fit accepted declared => exact agrees
  | present fit held fits fresh recorded =>
    rw [state_registerPresent]
    exact agrees.record recorded held fits (fun _ _ => rfl) _
  | absent fit missing fresh recorded =>
    rw [state_registerAbsent]
    exact agrees.record recorded (Document.find?_set_self ..) (initial?_eq_some_kind? fit)
      (fun l other => Document.find?_set_of_ne _ _ other) _

theorem Agrees.isDefined {r : Registry} (agrees : r.Agrees) {k : Key} {kind : Kind}
    (declared : r.declarations.kinds.find? k = some kind) : kind.isDefined = true := by
  obtain ⟨v, -, kinded⟩ := agrees k kind declared
  rw [Kind.isDefined_eq_true_iff]
  rintro rfl
  exact v.kind?_ne_undefined kinded

theorem Agrees.contains_eq_true {r : Registry} (agrees : r.Agrees) {k : Key} {kind : Kind}
    (declared : r.declarations.kinds.find? k = some kind) : r.declarations.contains k = true := by
  rw [Declarations.contains, Declarations.kindOf_of_find? declared]
  exact agrees.isDefined declared

end Registry

namespace Reader

/-- The readers that come with the registry. -/
inductive BuiltIn : {β : Type} → Reader β → Prop where
  | string : BuiltIn string
  | integer : BuiltIn integer
  | float : BuiltIn float
  | boolean : BuiltIn boolean
  | stringArray : BuiltIn stringArray

/-- The built-in readers and the kinds of values are made for each other. -/
theorem BuiltIn.total {β : Type} {reader : Reader β} (builtIn : reader.BuiltIn) : reader.Total := by
  cases builtIn with
  | string => exact total_string
  | integer => exact total_integer
  | float => exact total_float
  | boolean => exact total_boolean
  | stringArray => exact total_stringArray

theorem BuiltIn.kind_ne_undefined {β : Type} {reader : Reader β} (builtIn : reader.BuiltIn) :
    reader.kind ≠ .undefined := by
  cases builtIn <;> decide

end Reader

/-! ## Getters -/

namespace Registry

variable {β : Type} {r : Registry} {k : Key} {kind : Kind}

theorem get_of_fresh (fresh : r.declarations.kinds.find? k = none) (reader : Reader β) :
    r.get reader k = .error (.notRegistered k) := by
  rw [get, Declarations.kindOf_of_find?_eq_none fresh]
  rfl

theorem Agrees.get_of_differs (agrees : r.Agrees) {reader : Reader β}
    (declared : r.declarations.kinds.find? k = some kind) (differs : kind ≠ reader.kind) :
    r.get reader k = .error (.kindMismatch k kind reader.kind) := by
  have defined := Kind.isDefined_eq_true_iff.1 (agrees.isDefined declared)
  simp only [get, Declarations.kindOf_of_find? declared, defined, differs, if_false, ne_eq,
    not_false_eq_true, if_true]

/-- A value is there to be read, so the fallback of the reader is not used. -/
theorem Agrees.get_of_declared (agrees : r.Agrees) {reader : Reader β}
    (declared : r.declarations.kinds.find? k = some reader.kind) :
    ∃ v, r.document.find? k = some v ∧ v.kind? = some reader.kind ∧ r.get reader k =
      match reader.read v with
      | some data => .ok data
      | none => .error (.typeMismatch k reader.kind v.kindName) := by
  obtain ⟨v, held, fits⟩ := agrees k reader.kind declared
  have defined := Kind.isDefined_eq_true_iff.1 (agrees.isDefined declared)
  refine ⟨v, held, fits, ?_⟩
  have agreed : ¬reader.kind ≠ reader.kind := fun differs => differs rfl
  rw [get, Declarations.kindOf_of_find? declared, if_neg defined, if_neg agreed]
  split
  · next missing =>
    rw [held] at missing
    cases missing
  · next w found =>
    obtain rfl := Option.some.inj (held.symm.trans found)
    rfl

theorem Agrees.get_eq_ok (agrees : r.Agrees) {reader : Reader β} {v : Value} {data : β}
    (declared : r.declarations.kinds.find? k = some reader.kind) (held : r.document.find? k = some v)
    (read : reader.read v = some data) : r.get reader k = .ok data := by
  obtain ⟨w, found, -, get⟩ := agrees.get_of_declared declared
  obtain rfl := Option.some.inj (held.symm.trans found)
  rw [get, read]

/-- A getter answers by the declaration of a setting and by what its reader makes of the value,
never by the fallback of the reader. A built-in reader makes something of every value. -/
structure GetsFaithfully (r : Registry) (reader : Reader β) (k : Key) : Prop where
  notRegistered_iff : r.get reader k = .error (.notRegistered k) ↔ r.declarations.contains k = false
  kindMismatch_iff : ∀ kind, r.get reader k = .error (.kindMismatch k kind reader.kind) ↔
    r.declarations.contains k = true ∧ r.declarations.kindOf k = kind ∧ kind ≠ reader.kind
  reads : r.declarations.contains k = true → r.declarations.kindOf k = reader.kind →
    ∃ v, r.document.find? k = some v ∧ r.get reader k =
      match reader.read v with
      | some data => .ok data
      | none => .error (.typeMismatch k reader.kind v.kindName)
  builtIn_fits : reader.BuiltIn → ∀ key kind found,
    r.get reader k ≠ .error (.typeMismatch key kind found)
  builtIn_reads_iff : reader.BuiltIn →
    ((∃ data, r.get reader k = .ok data) ↔ r.declarations.kindOf k = reader.kind)

theorem Agrees.getsFaithfully (agrees : r.Agrees) (reader : Reader β) (k : Key) :
    r.GetsFaithfully reader k := by
  cases declared : r.declarations.kinds.find? k with
  | none =>
    have get := get_of_fresh declared reader
    have kindOf := Declarations.kindOf_of_find?_eq_none declared
    have contains : r.declarations.contains k = false := by
      rw [Declarations.contains, kindOf]
      rfl
    refine ⟨by simp [get, contains], by simp [get, contains], by simp [contains], by simp [get], ?_⟩
    intro builtIn
    simp [get, kindOf, builtIn.kind_ne_undefined.symm]
  | some kind =>
    have kindOf := Declarations.kindOf_of_find? declared
    have contains := agrees.contains_eq_true declared
    by_cases same : kind = reader.kind
    · subst same
      obtain ⟨v, held, fits, get⟩ := agrees.get_of_declared declared
      have ofBuiltIn : reader.BuiltIn → ∃ data, r.get reader k = .ok data := by
        intro builtIn
        obtain ⟨data, read⟩ := Option.isSome_iff_exists.1 (builtIn.total v fits)
        exact ⟨data, by rw [get, read]⟩
      have ofReader : (∃ data, r.get reader k = .ok data) ∨
          r.get reader k = .error (.typeMismatch k reader.kind v.kindName) := by
        rw [get]
        cases reader.read v <;> simp
      refine ⟨?_, ?_, fun _ _ => ⟨v, held, get⟩, ?_, fun builtIn => ?_⟩
      · rcases ofReader with ⟨data, get⟩ | get <;> simp [get, contains]
      · rcases ofReader with ⟨data, get⟩ | get <;> simp +contextual [get, kindOf]
      · intro builtIn key kind found mismatch
        obtain ⟨data, get⟩ := ofBuiltIn builtIn
        rw [get] at mismatch
        cases mismatch
      · simp [ofBuiltIn builtIn, kindOf]
    · have get := agrees.get_of_differs declared same
      refine ⟨by simp [get, contains], ?_, by simp [kindOf, same], by simp [get],
        by simp [get, kindOf, same]⟩
      intro other
      rw [get, contains, kindOf]
      constructor
      · intro answered
        injection answered with fault
        injection fault with _ registered
        exact ⟨rfl, registered, registered ▸ same⟩
      · rintro ⟨-, rfl, -⟩
        rfl

end Registry

namespace Origin

variable {α : Type}

theorem agrees_after (o : Origin) (qs : List (Request α)) : (o.after qs).Agrees :=
  o.follow (P := fun _ r => r.Agrees) Registry.agrees_fresh (fun _ _ a agrees => agrees.attempt a) qs

/-- Whatever requests were made and however they were answered, each declared setting has a defined
kind and holds a value of that kind, and so every getter answers faithfully. -/
theorem declarations_agree_and_getters_answer (o : Origin) (qs : List (Request α)) :
    (∀ k kind, (k, kind) ∈ (o.after qs).declarations.toList →
      kind.isDefined = true ∧ ∃ v, (o.after qs).document.find? k = some v ∧ v.kind? = some kind) ∧
    ∀ {β : Type} (reader : Reader β) (group item : String),
      (o.after qs).GetsFaithfully reader (.of group item) := by
  have agrees := o.agrees_after qs
  refine ⟨?_, fun reader group item => agrees.getsFaithfully reader (.of group item)⟩
  intro k kind listed
  have declared := OrderedMap.find?_eq_some_iff_mem.2 listed
  exact ⟨agrees.isDefined declared, agrees k kind declared⟩

end Origin

end TypedSettings
