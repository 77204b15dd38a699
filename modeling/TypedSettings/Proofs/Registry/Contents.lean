import TypedSettings.Proofs.Registry.History

/-!
# What a registry holds

Document and declarations are a function of the history. A value of the loaded document stays for
good. A setting that the document lacks is given a value once, by the first admissible attempt to
declare it, and that attempt settles its kind too. All other attempts leave no trace, however they
are answered.
-/

namespace TypedSettings
set_option autoImplicit false

namespace Attempt

/-- The default has the declared kind; without a default, the declared kind is defined. -/
def Admissible (a : Attempt) : Prop :=
  match a.default? with
  | some v => v.kind? = some a.kind
  | none => a.kind.isDefined = true

instance (a : Attempt) : Decidable a.Admissible := by
  unfold Admissible
  split <;> infer_instance

/-- The default, or the zero value of the kind when none is given. -/
def value? (a : Attempt) : Option Value := a.default?.or (Value.zero? a.kind)

/-- An admissible attempt to declare the setting at a key. -/
def On (a : Attempt) (k : Key) : Prop := a.key = k ∧ a.Admissible

instance (a : Attempt) (k : Key) : Decidable (a.On k) := by
  unfold On
  infer_instance

/-- An admissible attempt has a value of the declared kind to give. -/
theorem Admissible.value {a : Attempt} (admissible : a.Admissible) :
    ∃ v, a.value? = some v ∧ v.kind? = some a.kind := by
  obtain ⟨key, kind, default?, required⟩ := a
  cases default? with
  | some v => exact ⟨v, rfl, admissible⟩
  | none =>
    obtain ⟨v, zero⟩ := Option.isSome_iff_exists.1 (Value.zero?_isSome_iff.2 admissible)
    exact ⟨v, zero, Value.kind?_of_zero? zero⟩

theorem initial?_eq_some_iff {a : Attempt} {v : Value} :
    Registry.initial? a.kind a.default? = some v ↔ a.Admissible ∧ a.value? = some v := by
  obtain ⟨key, kind, default?, required⟩ := a
  cases default? with
  | some w =>
    show (if w.kind? = some kind then some w else none) = some v ↔
      w.kind? = some kind ∧ some w = some v
    split <;> simp_all
  | none =>
    show Value.zero? kind = some v ↔ kind.isDefined = true ∧ Value.zero? kind = some v
    refine ⟨fun zero => ⟨?_, zero⟩, And.right⟩
    rw [← Value.zero?_isSome_iff, zero, Option.isSome_some]

theorem initial?_eq_none_iff {a : Attempt} :
    Registry.initial? a.kind a.default? = none ↔ ¬a.Admissible := by
  constructor
  · intro unfit admissible
    obtain ⟨v, value, -⟩ := admissible.value
    rw [initial?_eq_some_iff.2 ⟨admissible, value⟩] at unfit
    cases unfit
  · intro inadmissible
    cases fit : Registry.initial? a.kind a.default? with
    | none => rfl
    | some v => exact absurd (initial?_eq_some_iff.1 fit).1 inadmissible

end Attempt

namespace History

/-- The first admissible attempt to declare the setting at a key. -/
def first? (h : History) (k : Key) : Option Attempt := h.attempts.find? fun a => a.On k

/-- The value of a setting by the history alone. -/
def valueAt (h : History) (k : Key) : Option Value :=
  (h.document.find? k).or ((h.first? k).bind Attempt.value?)

/-- The setting at a key is declared by the history alone: some admissible attempt declares it as
the kind that its value has. -/
def Declares (h : History) (k : Key) (kind : Kind) : Prop :=
  (h.valueAt k).bind Value.kind? = some kind ∧ ∃ a ∈ h.attempts, a.On k ∧ a.kind = kind

theorem first?_start (d : Document) (k : Key) : (start d).first? k = none := rfl

theorem first?_add (h : History) (a : Attempt) (k : Key) :
    (h.add a).first? k = (h.first? k).or (if a.On k then some a else none) := by
  by_cases on : a.On k <;> simp [first?, add, List.find?_append, on]

theorem mem_of_first? {h : History} {k : Key} {a : Attempt} (first : h.first? k = some a) :
    a ∈ h.attempts ∧ a.On k :=
  ⟨List.mem_of_find?_eq_some first, by simpa using List.find?_some first⟩

theorem valueAt_of_held {h : History} {k : Key} {v : Value} (held : h.document.find? k = some v) :
    h.valueAt k = some v := by
  rw [valueAt, held, Option.some_or]

theorem valueAt_of_missing {h : History} {k : Key} (missing : h.document.find? k = none) :
    h.valueAt k = (h.first? k).bind Attempt.value? := by
  rw [valueAt, missing, Option.none_or]

/-- One more attempt gives a value only to a setting that had none. -/
theorem valueAt_add (h : History) (a : Attempt) (k : Key) :
    (h.add a).valueAt k = (h.valueAt k).or (if a.On k then a.value? else none) := by
  have document : (h.add a).document = h.document := rfl
  rw [valueAt, valueAt, first?_add, document]
  cases first : h.first? k with
  | none =>
    by_cases on : a.On k <;> simp [on]
  | some b =>
    obtain ⟨v, value, -⟩ := (mem_of_first? first).2.2.value
    cases h.document.find? k <;> simp [value]

theorem declares_add {h : History} {a : Attempt} {k : Key} {kind : Kind} :
    (h.add a).Declares k kind ↔ ((h.add a).valueAt k).bind Value.kind? = some kind ∧
      ((∃ b ∈ h.attempts, b.On k ∧ b.kind = kind) ∨ a.On k ∧ a.kind = kind) := by
  simp [Declares, add, or_and_right, exists_or]

/-- A history tells what a document and declarations hold. -/
structure Tells (h : History) (document : Document) (declarations : Declarations) : Prop where
  values : ∀ k, document.find? k = h.valueAt k
  kinds : ∀ k kind, declarations.kinds.find? k = some kind ↔ h.Declares k kind

theorem tells_start (d : Document) : (start d).Tells d .empty where
  values k := by rw [valueAt, first?_start, Option.bind_none, Option.or_none]; rfl
  kinds k kind := by simp [Declares, start, Declarations.empty]

variable {h : History} {a : Attempt} {document : Document} {declarations : Declarations}

/-- An attempt may be passed over when it is not admissible, and also when the setting has a value
already and is declared already if that value has the kind of the attempt. -/
theorem Tells.pass (tells : h.Tells document declarations)
    (settled : a.Admissible → ∃ v, document.find? a.key = some v ∧
      (v.kind? = some a.kind → declarations.kinds.find? a.key = some a.kind)) :
    (h.add a).Tells document declarations := by
  have values : ∀ k, (h.add a).valueAt k = h.valueAt k := by
    intro k
    rw [valueAt_add]
    by_cases on : a.On k
    · obtain ⟨rfl, admissible⟩ := on
      obtain ⟨v, held, -⟩ := settled admissible
      rw [← tells.values, held, Option.some_or]
    · rw [if_neg on, Option.or_none]
  refine ⟨fun k => by rw [tells.values, values], fun k kind => ?_⟩
  rw [declares_add, values, tells.kinds]
  constructor
  · rintro ⟨value, before⟩
    exact ⟨value, .inl before⟩
  · rintro ⟨value, before | ⟨on, rfl⟩⟩
    · exact ⟨value, before⟩
    · obtain ⟨rfl, admissible⟩ := on
      obtain ⟨v, held, declared⟩ := settled admissible
      rw [← tells.values, held] at value
      exact (tells.kinds _ _).1 (declared value)

/-- The first attempt whose kind is that of the value, or that gives the value, is recorded. -/
theorem Tells.record {filled : Document} {ds : Declarations} {v : Value}
    (tells : h.Tells document declarations) (admissible : a.Admissible)
    (recorded : declarations.declare? a.key a.kind = some ds)
    (fits : v.kind? = some a.kind) (here : filled.find? a.key = some v)
    (origin : document.find? a.key = some v ∨ document.find? a.key = none ∧ a.value? = some v)
    (elsewhere : ∀ k, k ≠ a.key → filled.find? k = document.find? k) :
    (h.add a).Tells filled ds := by
  have valueHere : (h.add a).valueAt a.key = some v := by
    rw [valueAt_add, if_pos ⟨rfl, admissible⟩, ← tells.values]
    rcases origin with held | ⟨missing, value⟩
    · rw [held, Option.some_or]
    · rw [missing, value, Option.none_or]
  have valueElsewhere : ∀ k, k ≠ a.key → (h.add a).valueAt k = h.valueAt k := by
    intro k other
    rw [valueAt_add, if_neg fun on => other on.1.symm, Option.or_none]
  constructor
  · intro k
    by_cases same : k = a.key
    · rw [same, here, valueHere]
    · rw [elsewhere k same, valueElsewhere k same, tells.values]
  · intro k kind
    rw [Declarations.find?_of_declare? recorded, declares_add]
    by_cases same : k = a.key
    · subst same
      rw [if_pos rfl, valueHere, Option.bind_some, fits]
      exact ⟨fun kinds => ⟨kinds, .inr ⟨⟨rfl, admissible⟩, Option.some.inj kinds⟩⟩, And.left⟩
    · rw [if_neg same, valueElsewhere k same, tells.kinds, Declares]
      simp [show ¬a.On k from fun on => same on.1.symm]

/-- What a history tells goes on with every attempt, whatever it is answered. -/
theorem Tells.attempt {r : Registry} (tells : h.Tells r.document r.declarations) (a : Attempt) :
    (h.add a).Tells (r.attempt a).state.document (r.attempt a).state.declarations := by
  have way := r.declaring_attempt a
  generalize r.attempt a = outcome at way ⊢
  cases way with
  | invalidDefault unfit =>
    exact tells.pass fun admissible => absurd admissible (Attempt.initial?_eq_none_iff.1 unfit)
  | @mismatch _ v _ held differs =>
    exact tells.pass fun _ => ⟨v, held, fun same => absurd same differs⟩
  | @repeated _ kind fit accepted declared =>
    -- the declared kind is that of the value, and the attempt was let through with that value
    obtain ⟨value, -⟩ := (tells.kinds _ _).1 declared
    rw [← tells.values] at value
    obtain ⟨v, held, kinded⟩ := Option.bind_eq_some_iff.1 value
    have same := Registry.accepts_eq_true_iff.1 accepted v held
    refine tells.pass fun _ => ⟨v, held, fun _ => ?_⟩
    rw [declared, ← kinded, same]
  | present fit held agrees fresh recorded =>
    rw [Registry.state_registerPresent]
    exact tells.record (Attempt.initial?_eq_some_iff.1 fit).1 recorded agrees held (.inl held)
      (fun _ _ => rfl)
  | absent fit missing fresh recorded =>
    obtain ⟨admissible, value⟩ := Attempt.initial?_eq_some_iff.1 fit
    rw [Registry.state_registerAbsent]
    exact tells.record admissible recorded (Registry.initial?_eq_some_kind? fit)
      (Document.find?_set_self ..) (.inr ⟨missing, value⟩)
      (fun k other => Document.find?_set_of_ne _ _ other)

end History

namespace Origin

variable {α : Type}

theorem tells_after (o : Origin) (qs : List (Request α)) :
    (o.history qs).Tells (o.after qs).document (o.after qs).declarations :=
  o.follow (P := fun h r => h.Tells r.document r.declarations) (fun d _ => History.tells_start d)
    (fun _ _ a tells => tells.attempt a) qs

/-- Without a request that brings a document in, a setting of the document that a registry came about
over keeps its value, and it is declared by each admissible attempt as the kind of this value. -/
theorem held_of_no_document (o : Origin) {qs : List (Request α)} (kept : ∀ q ∈ qs, q.loaded? = none)
    {k : Key} {v : Value} (held : o.registry.document.find? k = some v) :
    (o.after qs).document.find? k = some v ∧
    ∀ q ∈ qs, ∀ a, q.attempt? = some a → a.On k → v.kind? = some a.kind →
      (o.after qs).declarations.kinds.find? k = some a.kind := by
  have tells := o.tells_after qs
  have lived : o.history qs = ⟨o.registry.document, qs.filterMap Request.attempt?⟩ :=
    (History.start o.registry.document).after_of_no_document kept
  have value : (o.history qs).valueAt k = some v := by
    rw [lived]
    exact History.valueAt_of_held held
  refine ⟨by rw [tells.values, value], fun q mem a made on fits => (tells.kinds k a.kind).2 ?_⟩
  refine ⟨by rw [value]; exact fits, a, ?_, on, rfl⟩
  rw [lived]
  exact List.mem_filterMap.2 ⟨q, mem, made⟩

/-- Document and declarations after any requests, key by key. A setting of the loaded document keeps
its value, and it is declared, as the kind of that value, exactly if an admissible attempt declared
it so. Any other setting has the value and the kind of the first admissible attempt on it, and
neither if there was none. -/
theorem contents_eq_history (o : Origin) (qs : List (Request α)) (k : Key) :
    (∀ v, (o.history qs).document.find? k = some v →
      (o.after qs).document.find? k = some v ∧
      ∀ kind, (o.after qs).declarations.kinds.find? k = some kind ↔
        v.kind? = some kind ∧ ∃ a ∈ (o.history qs).attempts, a.On k ∧ a.kind = kind) ∧
    ((o.history qs).document.find? k = none →
      match (o.history qs).first? k with
      | some a => (o.after qs).document.find? k = a.value? ∧ a.value?.isSome = true ∧
        (o.after qs).declarations.kinds.find? k = some a.kind
      | none => (o.after qs).document.find? k = none ∧
        (o.after qs).declarations.kinds.find? k = none) := by
  have tells := o.tells_after qs
  generalize o.history qs = h at tells ⊢
  refine ⟨fun v held => ?_, fun missing => ?_⟩
  · have value := History.valueAt_of_held held
    refine ⟨by rw [tells.values, value], fun kind => ?_⟩
    rw [tells.kinds, History.Declares, value, Option.bind_some]
  · have value := History.valueAt_of_missing missing
    cases first : h.first? k with
    | some a =>
      obtain ⟨mem, on⟩ := History.mem_of_first? first
      obtain ⟨v, given, kinded⟩ := on.2.value
      rw [first, Option.bind_some, given] at value
      refine ⟨by rw [tells.values, value, given], by rw [given]; rfl, (tells.kinds _ _).2 ?_⟩
      exact ⟨by rw [value]; exact kinded, a, mem, on, rfl⟩
    | none =>
      rw [first, Option.bind_none] at value
      refine ⟨by rw [tells.values, value], ?_⟩
      cases declared : (o.after qs).declarations.kinds.find? k with
      | none => rfl
      | some kind =>
        obtain ⟨kinds, -⟩ := (tells.kinds k kind).1 declared
        rw [value] at kinds
        cases kinds

end Origin

end TypedSettings
