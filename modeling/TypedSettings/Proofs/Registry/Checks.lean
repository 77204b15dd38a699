import TypedSettings.Proofs.Registry.Agreement
import TypedSettings.Proofs.Registry.Independence

/-!
# The checks of a declaration

An attempt to declare a setting is answered by the first check that it fails: of its default, of the
value in the document, of the earlier declarations, and last of the value of a required setting,
which must not be blank. So there are five verdicts on an attempt, and the grounds for them exclude
each other. A verdict settles the answer and what becomes of the registry: the first and the third
leave it as it was, the second takes its validity only, and the last two record the declaration and
fill in what is absent. Nothing changes at another key.
-/

namespace TypedSettings
set_option autoImplicit false

namespace Attempt

/-- The verdicts on an attempt, in the order of the checks. -/
inductive Verdict where
  | invalidDefault
  | typeMismatch
  | alreadyRegistered
  | requiredMissing
  | accepted
  deriving DecidableEq

/-- What is refused as a default: a value of another kind than the declared one, and no value for
no kind. -/
theorem not_admissible_iff {a : Attempt} : ¬a.Admissible ↔
    (∃ v, a.default? = some v ∧ v.kind? ≠ some a.kind) ∨ a.default? = none ∧ a.kind = .undefined := by
  obtain ⟨key, kind, default?, required⟩ := a
  cases default? with
  | none =>
    show ¬kind.isDefined = true ↔ _
    rw [Kind.isDefined_eq_true_iff]
    simp
  | some v =>
    show ¬v.kind? = some kind ↔ _
    simp

end Attempt

namespace Registry

open Attempt (Verdict)

variable {r : Registry} {a : Attempt}

/-! ## Grounds -/

/-- The setting is required, and declaring it leaves it blank: a value that is there is empty, or the
one that is filled in is zero. -/
def LeavesBlank (r : Registry) (a : Attempt) : Prop :=
  a.required = true ∧ match r.document.find? a.key with
    | some v => v.isEmpty = true
    | none => ∃ v, a.value? = some v ∧ v.isZero = true

/-- The checks of the default, of the value in the document and of the earlier declarations are
passed. -/
structure Passes (r : Registry) (a : Attempt) : Prop where
  admissible : a.Admissible
  accepted : r.accepts a.key a.kind = true
  fresh : r.declarations.contains a.key = false

/-- The grounds for a verdict. -/
def Grounds (r : Registry) (a : Attempt) : Verdict → Prop
  | .invalidDefault =>
    (∃ v, a.default? = some v ∧ v.kind? ≠ some a.kind) ∨ a.default? = none ∧ a.kind = .undefined
  | .typeMismatch =>
    a.Admissible ∧ ∃ v, r.document.find? a.key = some v ∧ v.kind? ≠ some a.kind
  | .alreadyRegistered =>
    a.Admissible ∧ r.accepts a.key a.kind = true ∧ r.declarations.contains a.key = true
  | .requiredMissing => r.Passes a ∧ r.LeavesBlank a
  | .accepted => r.Passes a ∧ ¬r.LeavesBlank a

/-- There are grounds for one verdict. -/
theorem exists_grounds (r : Registry) (a : Attempt) : ∃ verdict, r.Grounds a verdict := by
  by_cases admissible : a.Admissible
  · cases accepted : r.accepts a.key a.kind with
    | false => exact ⟨.typeMismatch, admissible, accepts_eq_false_iff.1 accepted⟩
    | true =>
      cases declared : r.declarations.contains a.key with
      | true => exact ⟨.alreadyRegistered, admissible, accepted, declared⟩
      | false =>
        have passes : r.Passes a := ⟨admissible, accepted, declared⟩
        by_cases blank : r.LeavesBlank a
        · exact ⟨.requiredMissing, passes, blank⟩
        · exact ⟨.accepted, passes, blank⟩
  · exact ⟨.invalidDefault, Attempt.not_admissible_iff.1 admissible⟩

/-! ## Answers and what is left -/

/-- The answer by a verdict. -/
def reply (r : Registry) (a : Attempt) : Verdict → Except Fault Unit
  | .invalidDefault => .error (.invalidDefault a.key a.kind)
  | .typeMismatch => .error (.typeMismatch a.key a.kind (r.found a.key))
  | .alreadyRegistered => .error (.alreadyRegistered a.key a.kind)
  | .requiredMissing => .error (.requiredMissing a.key)
  | .accepted => .ok ()

/-- No two verdicts have one answer. -/
theorem reply_inj {verdict other : Verdict} (same : r.reply a verdict = r.reply a other) :
    verdict = other := by
  cases verdict <;> cases other <;> simp [reply] at same ⊢

/-- The setting is declared, and it has the value that was there or else the one that the attempt
gives. -/
structure Records (r : Registry) (a : Attempt) (next : Registry) : Prop where
  declared : next.declarations.kinds.find? a.key = some a.kind
  held : next.document.find? a.key = (r.document.find? a.key).or a.value?

/-- What a verdict leaves of the registry. -/
def Leaves (r : Registry) (a : Attempt) (next : Registry) : Verdict → Prop
  | .invalidDefault => next = r
  | .typeMismatch => next = { r with valid := false }
  | .alreadyRegistered => next = r ∧ r.declarations.kindOf a.key = a.kind
  | .requiredMissing => r.Records a next ∧ next.valid = false
  | .accepted => r.Records a next ∧ next.valid = r.valid

/-! ## From grounds to outcomes -/

/-- A setting is declared as the kind of its value, so a declaration that is repeated names the kind
on record. -/
theorem Agrees.kind_eq (agrees : r.Agrees) {kind : Kind} (accepted : r.accepts a.key a.kind = true)
    (declared : r.declarations.kinds.find? a.key = some kind) : kind = a.kind := by
  obtain ⟨v, held, kinded⟩ := agrees a.key kind declared
  have fits := accepts_eq_true_iff.1 accepted v held
  exact Option.some.inj (kinded.symm.trans fits)

theorem Agrees.find?_of_contains (agrees : r.Agrees) (k : Key) :
    r.declarations.contains k = false → r.declarations.kinds.find? k = none := by
  intro fresh
  cases declared : r.declarations.kinds.find? k with
  | none => rfl
  | some kind =>
    rw [agrees.contains_eq_true declared] at fresh
    cases fresh

/-- An attempt that passes the first three checks is recorded, and it is blank by the value that is
there or filled in. -/
theorem Passes.outcome (passes : r.Passes a) (agrees : r.Agrees) :
    ∃ blank : Bool, (blank = true ↔ r.LeavesBlank a) ∧
      (r.attempt a).reply = (if blank then .error (.requiredMissing a.key) else .ok ()) ∧
      r.Records a (r.attempt a).state ∧ (r.attempt a).state.valid = (r.valid && !blank) := by
  obtain ⟨initial, value, kinded⟩ := passes.admissible.value
  have fit := Attempt.initial?_eq_some_iff.2 ⟨passes.admissible, value⟩
  have fresh := agrees.find?_of_contains a.key passes.fresh
  have recorded := Declarations.declare?_of_fresh (isDefined_of_initial? fit) fresh
  have declared := (Declarations.find?_of_declare? recorded a.key).trans (if_pos rfl)
  cases held : r.document.find? a.key with
  | some v =>
    have fits := accepts_eq_true_iff.1 passes.accepted v held
    rw [(Declaring.present fit held fits fresh recorded).attempt_eq, reply_registerPresent,
      state_registerPresent]
    refine ⟨a.required && v.isEmpty, by simp [LeavesBlank, held], rfl, ⟨declared, ?_⟩, rfl⟩
    rw [held, Option.some_or]
  | none =>
    rw [(Declaring.absent fit held fresh recorded).attempt_eq, reply_registerAbsent,
      state_registerAbsent]
    refine ⟨a.required && initial.isZero, by simp [LeavesBlank, held, value], rfl,
      ⟨declared, ?_⟩, rfl⟩
    rw [held, Option.none_or, value]
    exact Document.find?_set_self ..

/-- Grounds for a verdict lead to its answer and to what it leaves. -/
theorem Agrees.outcome_of_grounds (agrees : r.Agrees) {verdict : Verdict}
    (grounds : r.Grounds a verdict) :
    (r.attempt a).reply = r.reply a verdict ∧ r.Leaves a (r.attempt a).state verdict := by
  cases verdict with
  | invalidDefault =>
    have unfit := Attempt.initial?_eq_none_iff.2 (Attempt.not_admissible_iff.2 grounds)
    rw [(Declaring.invalidDefault unfit).attempt_eq]
    exact ⟨rfl, rfl⟩
  | typeMismatch =>
    obtain ⟨admissible, v, held, differs⟩ := grounds
    obtain ⟨initial, value, -⟩ := admissible.value
    have fit := Attempt.initial?_eq_some_iff.2 ⟨admissible, value⟩
    have named : r.found a.key = v.kindName := by rw [found, held, Option.elim_some]
    rw [(Declaring.mismatch fit held differs).attempt_eq, reply, named]
    exact ⟨rfl, rfl⟩
  | alreadyRegistered =>
    obtain ⟨admissible, accepted, contained⟩ := grounds
    obtain ⟨initial, value, -⟩ := admissible.value
    have fit := Attempt.initial?_eq_some_iff.2 ⟨admissible, value⟩
    cases declared : r.declarations.kinds.find? a.key with
    | none =>
      rw [Declarations.contains, Declarations.kindOf_of_find?_eq_none declared] at contained
      cases contained
    | some kind =>
      obtain rfl := agrees.kind_eq accepted declared
      rw [(Declaring.repeated fit accepted declared).attempt_eq]
      exact ⟨rfl, rfl, Declarations.kindOf_of_find? declared⟩
  | requiredMissing =>
    obtain ⟨passes, leavesBlank⟩ := grounds
    obtain ⟨blank, blank_iff, answer, records, valid⟩ := passes.outcome agrees
    rw [blank_iff.2 leavesBlank] at answer valid
    exact ⟨answer, records, by rw [valid, Bool.not_true, Bool.and_false]⟩
  | accepted =>
    obtain ⟨passes, filled⟩ := grounds
    obtain ⟨blank, blank_iff, answer, records, valid⟩ := passes.outcome agrees
    rw [Bool.eq_false_iff.2 (mt blank_iff.1 filled)] at answer valid
    exact ⟨answer, records, by rw [valid, Bool.not_false, Bool.and_true]⟩

/-- An attempt has one verdict, the one that there are grounds for. Other settings than its own and
the source are as before, whatever the verdict is. -/
structure SettledBy (r : Registry) (a : Attempt) (o : Outcome Registry (Except Fault Unit))
    (verdict : Verdict) : Prop where
  grounds : r.Grounds a verdict
  only : ∀ other, r.Grounds a other → other = verdict
  reply : o.reply = r.reply a verdict
  leaves : r.Leaves a o.state verdict
  elsewhere : SameOn (· ≠ a.key) o.state r
  source : o.state.source = r.source

theorem Agrees.exists_settledBy (agrees : r.Agrees) (a : Attempt) :
    ∃ verdict, r.SettledBy a (r.attempt a) verdict := by
  obtain ⟨verdict, grounds⟩ := r.exists_grounds a
  obtain ⟨answer, leaves⟩ := agrees.outcome_of_grounds grounds
  refine ⟨verdict, grounds, fun other others => ?_, answer, leaves,
    r.sameOn_attempt fun own => own rfl, r.source_attempt a⟩
  exact reply_inj ((agrees.outcome_of_grounds others).1.symm.trans answer)

theorem Agrees.reply_eq_iff (agrees : r.Agrees) (a : Attempt) (verdict : Verdict) :
    (r.attempt a).reply = r.reply a verdict ↔ r.Grounds a verdict := by
  refine ⟨fun answer => ?_, fun grounds => (agrees.outcome_of_grounds grounds).1⟩
  obtain ⟨settled, by_settled⟩ := agrees.exists_settledBy a
  obtain rfl := reply_inj (answer.symm.trans by_settled.reply)
  exact by_settled.grounds

end Registry

namespace Origin

variable {α : Type}

/-- Whatever requests were made before, a declaration, under any kind or by the function of one, has
exactly one verdict, and it is answered by a verdict exactly when there are the grounds for it. The
verdict says all that becomes of the registry. -/
theorem declaration_settled_by_first_failed_check (o : Origin) (qs : List (Request α))
    (d : Declaration) :
    (∃ verdict, (o.after qs).SettledBy d.attempt ((o.after qs).declare d) verdict) ∧
    (∀ verdict, ((o.after qs).declare d).reply = (o.after qs).reply d.attempt verdict ↔
      (o.after qs).Grounds d.attempt verdict) ∧
    ((o.after qs).accepts d.key d.preset.kind = false ↔ ∃ v,
      (o.after qs).document.find? d.key = some v ∧ v.kind? ≠ some d.preset.kind) := by
  have agrees := o.agrees_after qs
  rw [Registry.declare_eq_attempt]
  exact ⟨agrees.exists_settledBy d.attempt, agrees.reply_eq_iff d.attempt,
    Registry.accepts_eq_false_iff⟩

end Origin

end TypedSettings
