import TypedSettings.Proofs.Registry.Contents

/-!
# The verdict of a registry

A registry keeps one bit on whether its configuration is valid. The bit is a function of the
history: it holds as long as each setting that was declared is declared as one kind, that of its
value, and has a value that is not blank if its first declaration requires one. Read along the
answers, it holds as long as no attempt since the last load was answered with a fault that makes
the configuration invalid.
-/

namespace TypedSettings
set_option autoImplicit false

variable {α : Type}

/-- The answer makes the configuration invalid. -/
def invalidating : Except Fault Unit → Bool
  | .ok () => false
  | .error fault => fault.invalidates

namespace Registry

theorem invalidating_registerPresent (r : Registry) (ds : Declarations) (k : Key) (kind : Kind)
    (v : Value) (required : Bool) :
    invalidating (r.registerPresent ds k kind v required).reply = (required && v.isEmpty) := by
  rw [reply_registerPresent]
  cases required && v.isEmpty <;> rfl

theorem invalidating_registerAbsent (r : Registry) (ds : Declarations) (k : Key) (kind : Kind)
    (v : Value) (required : Bool) :
    invalidating (r.registerAbsent ds k kind v required).reply = (required && v.isZero) := by
  rw [reply_registerAbsent]
  cases required && v.isZero <;> rfl

/-- An attempt takes the validity away exactly when its answer says so. -/
theorem valid_attempt (r : Registry) (a : Attempt) :
    (r.attempt a).state.valid = (r.valid && !invalidating (r.attempt a).reply) := by
  have way := r.declaring_attempt a
  generalize r.attempt a = outcome at way ⊢
  cases way with
  | invalidDefault unfit => simp [refuse, invalidating, Fault.invalidates]
  | mismatch fit held differs => simp [invalidate, invalidating, Fault.invalidates]
  | repeated fit accepted declared => simp [refuse, invalidating, Fault.invalidates]
  | present fit held agrees fresh recorded =>
    rw [state_registerPresent, invalidating_registerPresent]
  | absent fit missing fresh recorded =>
    rw [state_registerAbsent, invalidating_registerAbsent]

end Registry

/-! ## The verdict on a history -/

namespace History

/-- All admissible attempts on a key declare one and the same kind, and if the document holds a
value there, the kind of that value. -/
def OneKind (h : History) (k : Key) : Prop :=
  (∀ a ∈ h.attempts, ∀ b ∈ h.attempts, a.On k → b.On k → a.kind = b.kind) ∧
    ∀ v, h.document.find? k = some v → ∀ a ∈ h.attempts, a.On k → v.kind? = some a.kind

/-- If the first admissible attempt on a key requires the setting, then the value there is not
blank: one from the document is not empty, and one that was filled in is not zero. -/
def NotBlank (h : History) (k : Key) : Prop :=
  ∀ a, h.first? k = some a → a.required = true →
    match h.document.find? k with
    | some v => v.isEmpty = false
    | none => ∀ v, a.value? = some v → v.isZero = false

/-- No setting speaks against the configuration. -/
def Sound (h : History) : Prop := ∀ k, h.OneKind k ∧ h.NotBlank k

variable {h : History} {a : Attempt} {k : Key}

theorem first?_of_on {b : Attempt} (mem : b ∈ h.attempts) (on : b.On k) :
    ∃ c, h.first? k = some c := by
  rw [← Option.isSome_iff_exists, first?, List.find?_isSome]
  exact ⟨b, mem, by simpa using on⟩

theorem valueAt_isSome_of_on {b : Attempt} (mem : b ∈ h.attempts) (on : b.On k) :
    ∃ v, h.valueAt k = some v := by
  obtain ⟨c, first⟩ := first?_of_on mem on
  obtain ⟨v, value, -⟩ := (mem_of_first? first).2.2.value
  cases held : h.document.find? k with
  | some w => exact ⟨w, valueAt_of_held held⟩
  | none => exact ⟨v, by rw [valueAt_of_missing held, first, Option.bind_some, value]⟩

/-- One kind for all attempts is one kind with the value, be it loaded or filled in. -/
theorem oneKind_iff : h.OneKind k ↔
    ∀ a ∈ h.attempts, a.On k → (h.valueAt k).bind Value.kind? = some a.kind := by
  constructor
  · rintro ⟨same, withDocument⟩ a mem on
    cases held : h.document.find? k with
    | some v => rw [valueAt_of_held held, Option.bind_some, withDocument v held a mem on]
    | none =>
      obtain ⟨b, first⟩ := first?_of_on mem on
      obtain ⟨memFirst, onFirst⟩ := mem_of_first? first
      obtain ⟨v, value, kinded⟩ := onFirst.2.value
      rw [valueAt_of_missing held, first, Option.bind_some, value, Option.bind_some, kinded,
        same b memFirst a mem onFirst on]
  · intro withValue
    refine ⟨fun a memA b memB onA onB => ?_, fun v held a mem on => ?_⟩
    · exact Option.some.inj ((withValue a memA onA).symm.trans (withValue b memB onB))
    · rw [← withValue a mem on, valueAt_of_held held, Option.bind_some]

/-- One more attempt must have the kind of the value that is there after it. -/
theorem oneKind_add : (h.add a).OneKind k ↔
    h.OneKind k ∧ (a.On k → ((h.add a).valueAt k).bind Value.kind? = some a.kind) := by
  have earlier : ∀ b ∈ h.attempts, b.On k → (h.add a).valueAt k = h.valueAt k := by
    intro b mem on
    obtain ⟨v, value⟩ := valueAt_isSome_of_on mem on
    rw [valueAt_add, value, Option.some_or]
  rw [oneKind_iff, oneKind_iff]
  constructor
  · intro all
    refine ⟨fun b mem on => ?_, fun on => all a (by simp [add]) on⟩
    rw [← earlier b mem on]
    exact all b (by simp [add, mem]) on
  · rintro ⟨before, now⟩ b mem on
    rcases List.mem_append.1 mem with mem | mem
    · rw [earlier b mem on]
      exact before b mem on
    · obtain rfl := List.mem_singleton.1 mem
      exact now on

/-- Only the first attempt on a key counts. -/
theorem notBlank_add_of_first {b : Attempt} (first : h.first? k = some b) :
    (h.add a).NotBlank k ↔ h.NotBlank k := by
  rw [NotBlank, NotBlank, first?_add, first, Option.some_or]
  rfl

theorem notBlank_add_of_not_on (off : ¬a.On k) : (h.add a).NotBlank k ↔ h.NotBlank k := by
  rw [NotBlank, NotBlank, first?_add, if_neg off, Option.or_none]
  rfl

/-- The first attempt on a key of the document looks at the value of the document. -/
theorem notBlank_add_of_held {v : Value} (admissible : a.Admissible)
    (first : h.first? a.key = none) (held : h.document.find? a.key = some v) :
    (h.add a).NotBlank a.key ↔ (a.required && v.isEmpty) = false := by
  have document : (h.add a).document = h.document := rfl
  rw [NotBlank, first?_add, first, if_pos ⟨rfl, admissible⟩, document, held]
  cases required : a.required <;> simp [required]

/-- The first attempt on any other key looks at the value that it gives. -/
theorem notBlank_add_of_missing {v : Value} (admissible : a.Admissible)
    (first : h.first? a.key = none) (missing : h.document.find? a.key = none)
    (given : a.value? = some v) :
    (h.add a).NotBlank a.key ↔ (a.required && v.isZero) = false := by
  have document : (h.add a).document = h.document := rfl
  rw [NotBlank, first?_add, first, if_pos ⟨rfl, admissible⟩, document, missing]
  cases required : a.required <;> simp [required, given]

/-- One more attempt can only change the verdict on its own key. -/
theorem sound_add {ok : Prop} (here : (h.add a).OneKind a.key ∧ (h.add a).NotBlank a.key ↔
    (h.OneKind a.key ∧ h.NotBlank a.key) ∧ ok) : (h.add a).Sound ↔ h.Sound ∧ ok := by
  have elsewhere : ∀ k, k ≠ a.key →
      ((h.add a).OneKind k ∧ (h.add a).NotBlank k ↔ h.OneKind k ∧ h.NotBlank k) := by
    intro k other
    have off : ¬a.On k := fun on => other on.1.symm
    rw [oneKind_add, notBlank_add_of_not_on off]
    simp [off]
  constructor
  · intro sound
    refine ⟨fun k => ?_, (here.1 (sound a.key)).2⟩
    by_cases same : k = a.key
    · rw [same]
      exact (here.1 (sound a.key)).1
    · exact (elsewhere k same).1 (sound k)
  · rintro ⟨sound, fine⟩ k
    by_cases same : k = a.key
    · rw [same]
      exact here.2 ⟨sound a.key, fine⟩
    · exact (elsewhere k same).2 (sound k)

variable {document : Document} {declarations : Declarations}

/-- A key with an admissible attempt that is not declared has attempts under another kind than that
of its value: the first of them would have been recorded otherwise. -/
theorem Tells.not_oneKind_of_fresh (tells : h.Tells document declarations) {b : Attempt}
    (first : h.first? k = some b) (fresh : declarations.kinds.find? k = none) : ¬h.OneKind k := by
  intro oneKind
  obtain ⟨mem, on⟩ := mem_of_first? first
  have declared := (tells.kinds k b.kind).2 ⟨oneKind_iff.1 oneKind b mem on, b, mem, on, rfl⟩
  rw [fresh] at declared
  cases declared

/-- The verdict on an attempt that is recorded is the one on the value that is there after it. -/
theorem Tells.sound_add_of_fresh (tells : h.Tells document declarations) {ok : Prop}
    (fresh : declarations.kinds.find? a.key = none)
    (fits : ((h.add a).valueAt a.key).bind Value.kind? = some a.kind)
    (filled : h.first? a.key = none → ((h.add a).NotBlank a.key ↔ ok)) :
    (h.add a).Sound ↔ h.Sound ∧ ok := by
  apply sound_add
  rw [oneKind_add]
  cases first : h.first? a.key with
  | some b => simp [tells.not_oneKind_of_fresh first fresh]
  | none =>
    have notBlank : h.NotBlank a.key := by
      intro b earlier
      rw [first] at earlier
      cases earlier
    rw [filled first]
    simp [notBlank, fits]

/-- The verdict on the history goes on as the answer to the attempt says. -/
theorem Tells.sound_add_iff {r : Registry} (tells : h.Tells r.document r.declarations)
    (a : Attempt) : (h.add a).Sound ↔ h.Sound ∧ invalidating (r.attempt a).reply = false := by
  have way := r.declaring_attempt a
  generalize r.attempt a = outcome at way ⊢
  cases way with
  | invalidDefault unfit =>
    have off : ¬a.On a.key := fun on => Attempt.initial?_eq_none_iff.1 unfit on.2
    apply sound_add
    rw [oneKind_add, notBlank_add_of_not_on off]
    simp [off, Registry.refuse, invalidating, Fault.invalidates]
  | @mismatch _ v fit held differs =>
    have on : a.On a.key := ⟨rfl, (Attempt.initial?_eq_some_iff.1 fit).1⟩
    have value : (h.add a).valueAt a.key = some v := by
      rw [valueAt_add, ← tells.values, held, Option.some_or]
    apply sound_add
    rw [oneKind_add, value, Option.bind_some]
    simp [on, differs, Registry.invalidate, invalidating, Fault.invalidates]
  | @repeated _ kind fit accepted declared =>
    obtain ⟨value, b, mem, on, -⟩ := (tells.kinds _ _).1 declared
    obtain ⟨v, held, -⟩ := Option.bind_eq_some_iff.1 value
    obtain ⟨c, first⟩ := first?_of_on mem on
    have fits := Registry.accepts_eq_true_iff.1 accepted v (by rw [tells.values, held])
    apply sound_add
    rw [oneKind_add, notBlank_add_of_first first, valueAt_add, held, Option.some_or,
      Option.bind_some]
    simp [fits, Registry.refuse, invalidating, Fault.invalidates]
  | @present _ v _ fit held agrees fresh recorded =>
    have admissible := (Attempt.initial?_eq_some_iff.1 fit).1
    have value : h.valueAt a.key = some v := by rw [← tells.values, held]
    rw [Registry.invalidating_registerPresent]
    refine tells.sound_add_of_fresh fresh ?_ fun first => ?_
    · rw [valueAt_add, value, Option.some_or, Option.bind_some, agrees]
    · -- without an earlier attempt the value can only come from the document
      rw [valueAt, first, Option.bind_none, Option.or_none] at value
      exact notBlank_add_of_held admissible first value
  | @absent initial _ fit missing fresh recorded =>
    obtain ⟨admissible, given⟩ := Attempt.initial?_eq_some_iff.1 fit
    have value : h.valueAt a.key = none := by rw [← tells.values, missing]
    rw [Registry.invalidating_registerAbsent]
    refine tells.sound_add_of_fresh fresh ?_ fun first => ?_
    · rw [valueAt_add, value, Option.none_or, if_pos ⟨rfl, admissible⟩, given, Option.bind_some,
        Registry.initial?_eq_some_kind? fit]
    · rw [valueAt, first, Option.bind_none, Option.or_none] at value
      exact notBlank_add_of_missing admissible first value given

end History

/-! ## The verdict along the answers -/

namespace Registry

/-- The request is an attempt whose answer makes the configuration invalid. -/
def Invalidating (r : Registry) (q : Request α) : Prop :=
  ∃ a fault, q.attempt? = some a ∧ (r.step q).reply = .done (.error fault) ∧
    fault.invalidates = true

theorem invalidating_iff_of_attempt {q : Request α} {a : Attempt} (made : q.attempt? = some a)
    (r : Registry) : r.Invalidating q ↔ invalidating (r.attempt a).reply = true := by
  rw [Invalidating, step_of_attempt made]
  cases answer : (r.attempt a).reply with
  | ok data => simp [invalidating, answer]
  | error fault => simp [made, invalidating, answer]

/-- What one request does to the validity. -/
theorem valid_step_eq_false_iff (r : Registry) (q : Request α) :
    (r.step q).state.valid = false ↔ q.loaded? = none ∧ (r.valid = false ∨ r.Invalidating q) := by
  cases loaded : q.loaded? with
  | some d =>
    obtain ⟨name, state, -⟩ := step_of_loaded loaded r
    simp [state, fresh]
  | none =>
    cases made : q.attempt? with
    | some a =>
      rw [invalidating_iff_of_attempt made, step_of_attempt made, Outcome.state_mapReply,
        valid_attempt]
      cases r.valid <;> simp
    | none =>
      rw [state_step_of_idle loaded made]
      simp [Invalidating, made]

/-- A run ends invalid exactly if an attempt after its last load was answered so, or if it began
invalid and loaded nothing. -/
theorem valid_run_eq_false_iff (r : Registry) (qs : List (Request α)) :
    (r.run qs).state.valid = false ↔
      (∃ before q later, qs = before ++ q :: later ∧ (∀ p ∈ later, p.loaded? = none) ∧
        (r.run before).state.Invalidating q) ∨
      r.valid = false ∧ ∀ p ∈ qs, p.loaded? = none := by
  induction qs generalizing r with
  | nil => simp
  | cons q qs ih =>
    rw [state_run_cons, ih, valid_step_eq_false_iff]
    constructor
    · rintro (⟨before, p, later, rfl, quiet, invalidating⟩ | ⟨⟨loaded, invalid | invalidating⟩, quiet⟩)
      · exact .inl ⟨q :: before, p, later, rfl, quiet, invalidating⟩
      · exact .inr ⟨invalid, List.forall_mem_cons.2 ⟨loaded, quiet⟩⟩
      · exact .inl ⟨[], q, qs, rfl, quiet, invalidating⟩
    · rintro (⟨before, p, later, split, quiet, invalidating⟩ | ⟨invalid, quiet⟩)
      · rcases List.cons_eq_append_iff.1 split with ⟨rfl, same⟩ | ⟨rest, rfl, rfl⟩
        · obtain ⟨rfl, rfl⟩ := List.cons.inj same
          obtain ⟨a, fault, made, -⟩ := id invalidating
          exact .inr ⟨⟨Request.loaded?_of_attempt made, .inr invalidating⟩, quiet⟩
        · exact .inl ⟨rest, p, later, rfl, quiet, invalidating⟩
      · obtain ⟨loaded, quiet⟩ := List.forall_mem_cons.1 quiet
        exact .inr ⟨⟨loaded, .inl invalid⟩, quiet⟩

end Registry

namespace Origin

theorem valid_after_iff_sound (o : Origin) (qs : List (Request α)) :
    (o.after qs).valid = true ↔ (o.history qs).Sound := by
  refine (o.follow (P := fun h r => h.Tells r.document r.declarations ∧ (r.valid = true ↔ h.Sound))
    (fun d source => ?_) (fun h r a invariant => ?_) qs).2
  · refine ⟨History.tells_start d, fun _ k => ⟨?_, ?_⟩, fun _ => rfl⟩
    · simp [History.OneKind, History.start]
    · simp [History.NotBlank, History.first?_start]
  · obtain ⟨tells, valid⟩ := invariant
    refine ⟨tells.attempt a, ?_⟩
    rw [Registry.valid_attempt, tells.sound_add_iff, ← valid]
    simp

/-- The validity after any requests, told in three ways. By the history: each key with an admissible
attempt is declared as one kind, that of its value, and is not blank if its first attempt requires
it. By the answers: no attempt since the last load was answered with a fault that invalidates. By
one further request: it stays as it is unless the request loads a document or is an attempt so
answered, and only a document makes an invalid configuration valid. -/
theorem valid_iff_verdict (o : Origin) (qs : List (Request α)) :
    ((o.after qs).valid = true ↔ ∀ k, (∃ a ∈ (o.history qs).attempts, a.On k) →
      (o.history qs).OneKind k ∧ (o.history qs).NotBlank k) ∧
    ((o.after qs).valid = false ↔ ∃ before q later, qs = before ++ q :: later ∧
      (∀ p ∈ later, p.loaded? = none) ∧ (o.after before).Invalidating q) ∧
    (∀ q : Request α, q.loaded? = none → ¬(o.after qs).Invalidating q →
      ((o.after qs).step q).state.valid = (o.after qs).valid) ∧
    ∀ q : Request α, (o.after qs).valid = false →
      (((o.after qs).step q).state.valid = true ↔ ∃ d, q.loaded? = some d) := by
  refine ⟨?_, ?_, fun q noDocument fine => ?_, fun q invalid => ?_⟩
  · rw [valid_after_iff_sound]
    refine ⟨fun sound k _ => sound k, fun sound k => ?_⟩
    by_cases tried : ∃ a ∈ (o.history qs).attempts, a.On k
    · exact sound k tried
    · -- without an attempt both conditions are empty
      refine ⟨History.oneKind_iff.2 fun a mem on => absurd ⟨a, mem, on⟩ tried, fun a first _ => ?_⟩
      exact absurd ⟨a, History.mem_of_first? first⟩ tried
  · obtain ⟨source, origin⟩ := o.registry_eq
    rw [after, Registry.valid_run_eq_false_iff, origin]
    simp only [Bool.true_eq_false, false_and, or_false]
    rw [← origin]
    rfl
  · have step := Registry.valid_step_eq_false_iff (o.after qs) q
    simp only [noDocument, fine, or_false, true_and] at step
    rw [Bool.eq_iff_iff, ← Bool.not_eq_false, ← Bool.not_eq_false, step]
  · have step := Registry.valid_step_eq_false_iff (o.after qs) q
    simp only [invalid, true_or, and_true] at step
    rw [← Bool.not_eq_false, step]
    exact Option.ne_none_iff_exists'

end Origin

end TypedSettings
