import TypedSettings.Registry.Declare

/-!
# The ways of declaring a setting

`register` looks at the default, at the value in the document and at the earlier declarations, in
this order. `Declaring` has one constructor for each way through these checks and says all that is
known at its end. What holds of every declaration is proved by cases on it, and `register` itself
is opened in `declaring_attempt` and its converse only.
-/

namespace TypedSettings
set_option autoImplicit false

/-- An attempt to declare a setting. -/
structure Attempt where
  key : Key
  kind : Kind
  default? : Option Value
  required : Bool

/-- The attempt that a declaration makes. -/
def Declaration.attempt (d : Declaration) : Attempt :=
  ⟨d.key, d.preset.kind, d.preset.default?, d.required⟩

namespace Registry

/-- The outcome of an attempt. -/
def attempt (r : Registry) (a : Attempt) : Outcome Registry (Except Fault Unit) :=
  r.register a.key a.kind a.default? a.required

/-- To declare a setting by the function for a kind is to make an attempt under that kind, so what is
shown of attempts covers these functions too. -/
theorem declare_eq_attempt (r : Registry) (d : Declaration) : r.declare d = r.attempt d.attempt :=
  r.declare_eq_register d

theorem accepts_eq_true_iff {r : Registry} {k : Key} {kind : Kind} :
    r.accepts k kind = true ↔ ∀ v, r.document.find? k = some v → v.kind? = some kind := by
  unfold accepts
  cases r.document.find? k <;> simp

theorem accepts_eq_false_iff {r : Registry} {k : Key} {kind : Kind} :
    r.accepts k kind = false ↔ ∃ v, r.document.find? k = some v ∧ v.kind? ≠ some kind := by
  unfold accepts
  cases r.document.find? k <;> simp

/-! ## The two ways that record a declaration -/

theorem state_registerPresent (r : Registry) (ds : Declarations) (k : Key) (kind : Kind) (v : Value)
    (required : Bool) : (r.registerPresent ds k kind v required).state =
      { r with declarations := ds, valid := r.valid && !(required && v.isEmpty) } := by
  unfold registerPresent
  cases required && v.isEmpty <;> simp

theorem reply_registerPresent (r : Registry) (ds : Declarations) (k : Key) (kind : Kind) (v : Value)
    (required : Bool) : (r.registerPresent ds k kind v required).reply =
      if required && v.isEmpty then .error (.requiredMissing k) else .ok () := by
  unfold registerPresent
  cases required && v.isEmpty <;> rfl

theorem state_registerAbsent (r : Registry) (ds : Declarations) (k : Key) (kind : Kind) (v : Value)
    (required : Bool) : (r.registerAbsent ds k kind v required).state =
      { r with declarations := ds, document := r.document.set k v,
               valid := r.valid && !(required && v.isZero) } := by
  unfold registerAbsent
  cases required && v.isZero <;> simp

theorem reply_registerAbsent (r : Registry) (ds : Declarations) (k : Key) (kind : Kind) (v : Value)
    (required : Bool) : (r.registerAbsent ds k kind v required).reply =
      if required && v.isZero then .error (.requiredMissing k) else .ok () := by
  unfold registerAbsent
  cases required && v.isZero <;> rfl

/-! ## All ways -/

/-- What is known at the end of each way through the checks of a declaration, and its outcome. -/
inductive Declaring (r : Registry) (a : Attempt) : Outcome Registry (Except Fault Unit) → Prop where
  /-- There is no value of the declared kind to begin with. -/
  | invalidDefault (unfit : initial? a.kind a.default? = none) :
      Declaring r a (r.refuse [] (.invalidDefault a.key a.kind))
  /-- The document holds a value of another kind. -/
  | mismatch {initial v : Value} (fit : initial? a.kind a.default? = some initial)
      (held : r.document.find? a.key = some v) (differs : v.kind? ≠ some a.kind) :
      Declaring r a (r.invalidate [] (.typeMismatch a.key a.kind v.kindName))
  /-- The setting is declared already. -/
  | repeated {initial : Value} {kind : Kind} (fit : initial? a.kind a.default? = some initial)
      (accepted : r.accepts a.key a.kind = true)
      (declared : r.declarations.kinds.find? a.key = some kind) :
      Declaring r a (r.refuse [.alreadyRegistered a.key kind] (.alreadyRegistered a.key kind))
  /-- The document holds a value of the declared kind. -/
  | present {initial v : Value} {ds : Declarations} (fit : initial? a.kind a.default? = some initial)
      (held : r.document.find? a.key = some v) (agrees : v.kind? = some a.kind)
      (fresh : r.declarations.kinds.find? a.key = none)
      (recorded : r.declarations.declare? a.key a.kind = some ds) :
      Declaring r a (r.registerPresent ds a.key a.kind v a.required)
  /-- The document holds nothing. -/
  | absent {initial : Value} {ds : Declarations} (fit : initial? a.kind a.default? = some initial)
      (missing : r.document.find? a.key = none) (fresh : r.declarations.kinds.find? a.key = none)
      (recorded : r.declarations.declare? a.key a.kind = some ds) :
      Declaring r a (r.registerAbsent ds a.key a.kind initial a.required)

/-- A kind that some value has is defined. -/
theorem isDefined_of_initial? {kind : Kind} {default? : Option Value} {v : Value}
    (fit : initial? kind default? = some v) : kind.isDefined = true := by
  rw [Kind.isDefined_eq_true_iff]
  rintro rfl
  exact v.kind?_ne_undefined (initial?_eq_some_kind? fit)

/-- Every attempt goes one of the ways. -/
theorem declaring_attempt (r : Registry) (a : Attempt) : Declaring r a (r.attempt a) := by
  unfold attempt register
  cases fit : initial? a.kind a.default? with
  | none => exact .invalidDefault fit
  | some initial =>
    cases accepted : r.accepts a.key a.kind with
    | false =>
      obtain ⟨v, held, differs⟩ := accepts_eq_false_iff.1 accepted
      have named : r.found a.key = v.kindName := by simp [found, held]
      simp only [Bool.not_false, if_true, named]
      exact .mismatch fit held differs
    | true =>
      simp only [Bool.not_true, Bool.false_eq_true, if_false]
      cases declared : r.declarations.kinds.find? a.key with
      | some kind =>
        simp only [Declarations.declare?_of_find? declared, Declarations.kindOf_of_find? declared]
        exact .repeated fit accepted declared
      | none =>
        have recorded := Declarations.declare?_of_fresh (isDefined_of_initial? fit) declared
        rw [recorded]
        cases held : r.document.find? a.key with
        | none => exact .absent fit held declared recorded
        | some v =>
          exact .present fit held (accepts_eq_true_iff.1 accepted v held) declared recorded

/-- What is known at the end of a way leads back to its outcome, so an attempt goes one way only. -/
theorem Declaring.attempt_eq {r : Registry} {a : Attempt} {o : Outcome Registry (Except Fault Unit)}
    (way : Declaring r a o) : r.attempt a = o := by
  cases way with
  | invalidDefault unfit => simp only [attempt, register, unfit]
  | mismatch fit held differs =>
    have rejected := accepts_eq_false_iff.2 ⟨_, held, differs⟩
    simp [attempt, register, fit, rejected, found, held]
  | repeated fit accepted declared =>
    simp [attempt, register, fit, accepted, Declarations.declare?_of_find? declared,
      Declarations.kindOf_of_find? declared]
  | present fit held agrees fresh recorded =>
    have accepted : r.accepts a.key a.kind = true := by simp [accepts, held, agrees]
    simp [attempt, register, fit, accepted, recorded, held]
  | absent fit missing fresh recorded =>
    have accepted : r.accepts a.key a.kind = true := by simp [accepts, missing]
    simp [attempt, register, fit, accepted, recorded, missing]

end Registry

end TypedSettings
