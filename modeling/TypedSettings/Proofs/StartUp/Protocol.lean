import TypedSettings.Proofs.Ini.OneKind
import TypedSettings.Proofs.Registry.Agreement
import TypedSettings.Proofs.Registry.Independence
import TypedSettings.Proofs.Registry.Log
import TypedSettings.StartUp

/-!
# Declaring first and checking once

A program may make all of its declarations without a look at their answers and then ask once whether
the configuration is valid. This is sound when each setting is declared once and each default would
do by itself: the configuration is then valid just if the document has no fault in any of the
settings, and when it is, each of them is declared and has its value, that of the document or else
the default. The faults are reported one by one, and nothing else is reported but for debugging.
-/

namespace TypedSettings
set_option autoImplicit false

variable {r : Registry} {document : Document}

namespace Declaration

variable {d : Declaration}

@[simp] theorem key_attempt (d : Declaration) : d.attempt.key = d.key := rfl

@[simp] theorem kind_attempt (d : Declaration) : d.attempt.kind = d.preset.kind := rfl

@[simp] theorem default?_attempt (d : Declaration) : d.attempt.default? = d.preset.default? := rfl

@[simp] theorem required_attempt (d : Declaration) : d.attempt.required = d.required := rfl

/-- The value of the setting over a document: the one there, or else the default. -/
def valueIn (d : Declaration) (document : Document) : Option Value :=
  (document.find? d.key).or d.preset.default?

/-- What is wrong with the setting in a document: its value has another kind, or it is empty though
the setting is required. -/
def fault? (d : Declaration) (document : Document) : Option Fault :=
  (document.find? d.key).bind fun v =>
    if v.kind? ≠ some d.preset.kind then some (.typeMismatch d.key d.preset.kind v.kindName)
    else if d.required && v.isEmpty then some (.requiredMissing d.key)
    else none

/-- There is a default of the declared kind, and it is not zero if the setting is required. -/
structure HasDefault (d : Declaration) (default : Value) : Prop where
  given : d.preset.default? = some default
  fits : default.kind? = some d.preset.kind
  filled : d.required = true → default.isZero = false

theorem fault?_eq_none_iff :
    d.fault? document = none ↔ ∀ v, document.find? d.key = some v →
      v.kind? = some d.preset.kind ∧ (d.required = true → v.isEmpty = false) := by
  unfold fault?
  cases document.find? d.key with
  | none => simp
  | some v => by_cases fits : v.kind? = some d.preset.kind <;> simp [fits]

/-- Only what the document has for the key matters. -/
theorem fault?_congr {other : Document} (same : document.find? d.key = other.find? d.key) :
    d.fault? document = d.fault? other := by
  rw [fault?, fault?, same]

theorem fault?_of_absent (absent : document.find? d.key = none) : d.fault? document = none := by
  rw [fault?, absent, Option.bind_none]

theorem fault?_of_differs {v : Value} (held : document.find? d.key = some v)
    (differs : v.kind? ≠ some d.preset.kind) :
    d.fault? document = some (.typeMismatch d.key d.preset.kind v.kindName) := by
  rw [fault?, held, Option.bind_some, if_pos differs]

theorem fault?_of_fits {v : Value} (held : document.find? d.key = some v)
    (fits : v.kind? = some d.preset.kind) :
    d.fault? document =
      if d.required && v.isEmpty then some (.requiredMissing d.key) else none := by
  rw [fault?, held, Option.bind_some, if_neg (not_not.2 fits)]

/-- What comes of the declaration of a setting, by the fault that the document has in it. -/
structure Outcomes (d : Declaration) (r : Registry) (o : Outcome Registry (Except Fault Unit)) :
    Prop where
  declares : d.fault? r.document = none →
    o.state.declarations.kinds.find? d.key = some d.preset.kind
  holds : d.fault? r.document = none → o.state.document.find? d.key = d.valueIn r.document
  valid : o.state.valid = (r.valid && (d.fault? r.document).isNone)
  reports : o.events.filter (·.level != .debug) = (d.fault? r.document).toList.map .invalidated

/-- The first declaration of a setting meets the fault in it, if there is one. -/
theorem HasDefault.outcomes {default : Value} (h : d.HasDefault default)
    (fresh : r.declarations.kinds.find? d.key = none) : d.Outcomes r (r.declare d) := by
  have start : Registry.initial? d.preset.kind d.preset.default? = some default := by
    rw [h.given]
    exact if_pos h.fits
  rw [Registry.declare_eq_attempt]
  have way := r.declaring_attempt d.attempt
  generalize r.attempt d.attempt = outcome at way ⊢
  cases way with
  | invalidDefault unfit => cases start.symm.trans unfit
  | mismatch fit held differs =>
    have fault := fault?_of_differs held differs
    constructor <;> simp [fault, Registry.invalidate, Event.level]
  | repeated fit accepted declared => cases fresh.symm.trans declared
  | @present initial v ds fit held fits undeclared recorded =>
    have fault := fault?_of_fits held fits
    have declared := (Declarations.find?_of_declare? recorded d.key).trans (if_pos rfl)
    have held : r.document.find? d.key = some v := held
    constructor
    case declares => exact fun _ => by rwa [Registry.state_registerPresent]
    case holds => exact fun _ => by rw [Registry.state_registerPresent, valueIn, held]; rfl
    case valid =>
      rw [Registry.state_registerPresent, fault, required_attempt]
      cases d.required && v.isEmpty <;> rfl
    case reports =>
      rw [Registry.events_registerPresent, fault, required_attempt]
      cases d.required && v.isEmpty <;> rfl
  | @absent initial ds fit missing undeclared recorded =>
    have fault := fault?_of_absent missing
    have declared := (Declarations.find?_of_declare? recorded d.key).trans (if_pos rfl)
    have missing : r.document.find? d.key = none := missing
    obtain rfl : default = initial := Option.some.inj (start.symm.trans fit)
    have filled : (d.required && default.isZero) = false := by
      cases required : d.required with
      | false => rfl
      | true => exact h.filled required
    constructor
    case declares => exact fun _ => by rwa [Registry.state_registerAbsent]
    case holds =>
      intro _
      rw [Registry.state_registerAbsent, valueIn, missing, h.given]
      exact Document.find?_set_self ..
    case valid =>
      rw [Registry.state_registerAbsent, fault, required_attempt, filled]
      rfl
    case reports =>
      rw [Registry.events_registerAbsent, fault, required_attempt, filled]
      rfl

end Declaration

namespace StartUp

/-! ## All declarations -/

/-- What is wrong in a document with the settings that are declared. -/
def faults (ds : List Declaration) (document : Document) : List Fault :=
  ds.filterMap (·.fault? document)

/-- What comes of all declarations, by the faults that the document has in the settings. -/
structure Outcomes (ds : List Declaration) (r : Registry)
    (o : Outcome Registry (List (Except Fault Unit))) : Prop where
  agrees : o.state.Agrees
  elsewhere : o.state.SameOn (· ∉ ds.map Declaration.key) r
  declares : ∀ d ∈ ds, d.fault? r.document = none →
    o.state.declarations.kinds.find? d.key = some d.preset.kind
  holds : ∀ d ∈ ds, d.fault? r.document = none →
    o.state.document.find? d.key = d.valueIn r.document
  valid : o.state.valid = (r.valid && (faults ds r.document).isEmpty)
  reports : o.events.filter (·.level != .debug) = (faults ds r.document).map .invalidated

/-- Each setting is declared once, with a default that would do. -/
structure Sound (ds : List Declaration) : Prop where
  distinct : (ds.map Declaration.key).Nodup
  hasDefault : ∀ d ∈ ds, ∃ default, d.HasDefault default

theorem faults_cons (d : Declaration) (ds : List Declaration) (document : Document) :
    faults (d :: ds) document = (d.fault? document).toList ++ faults ds document := by
  rw [faults, List.filterMap_cons]
  cases d.fault? document <;> rfl

/-- Declarations meet the faults of the document, however many there are. -/
theorem Sound.outcomes {ds : List Declaration} (sound : Sound ds) (agrees : r.Agrees)
    (fresh : ∀ d ∈ ds, r.declarations.kinds.find? d.key = none) :
    Outcomes ds r (r.declareEach ds) := by
  induction ds generalizing r with
  | nil => exact ⟨agrees, .refl _ r, nofun, nofun, (Bool.and_true _).symm, rfl⟩
  | cons d ds ih =>
    obtain ⟨apart, distinct⟩ := List.nodup_cons.1 sound.distinct
    obtain ⟨⟨default, hasDefault⟩, hasDefaults⟩ := List.forall_mem_cons.1 sound.hasDefault
    obtain ⟨freshHere, freshLater⟩ := List.forall_mem_cons.1 fresh
    have one := hasDefault.outcomes freshHere
    have kept := r.sameOn_attempt (p := (· ≠ d.key)) (a := d.attempt) fun own => own rfl
    rw [← Registry.declare_eq_attempt] at kept
    have still : (r.declare d).state.Agrees := r.declare_eq_attempt d ▸ agrees.attempt d.attempt
    rw [Registry.declareEach]
    generalize r.declare d = o at one kept still
    -- the other settings have keys of their own, so what is met in them is still to come
    have other : ∀ e ∈ ds, e.key ≠ d.key := fun e mem same => apart (same ▸ List.mem_map_of_mem mem)
    have sameValue : ∀ e ∈ ds, o.state.document.find? e.key = r.document.find? e.key :=
      fun e mem => kept.value e.key (other e mem)
    have sameFault : ∀ e ∈ ds, e.fault? o.state.document = e.fault? r.document :=
      fun e mem => Declaration.fault?_congr (sameValue e mem)
    have sameFaults : faults ds o.state.document = faults ds r.document :=
      List.filterMap_congr sameFault
    have rest := ih ⟨distinct, hasDefaults⟩ still
      fun e mem => (kept.kind e.key (other e mem)).trans (freshLater e mem)
    constructor
    case agrees => exact rest.agrees
    case elsewhere =>
      have fresher : ∀ k, k ∉ (d :: ds).map Declaration.key →
          k ∉ ds.map Declaration.key ∧ k ≠ d.key := by
        intro k away
        rw [List.map_cons, List.mem_cons, not_or] at away
        exact away.symm
      exact ⟨fun k away => (rest.elsewhere.value k (fresher k away).1).trans
          (kept.value k (fresher k away).2),
        fun k away => (rest.elsewhere.kind k (fresher k away).1).trans
          (kept.kind k (fresher k away).2)⟩
    case declares =>
      refine List.forall_mem_cons.2 ⟨fun none => ?_, fun e mem none => ?_⟩
      · exact (rest.elsewhere.kind d.key apart).trans (one.declares none)
      · exact rest.declares e mem ((sameFault e mem).trans none)
    case holds =>
      refine List.forall_mem_cons.2 ⟨fun none => ?_, fun e mem none => ?_⟩
      · exact (rest.elsewhere.value d.key apart).trans (one.holds none)
      · rw [rest.holds e mem ((sameFault e mem).trans none), Declaration.valueIn, sameValue e mem]
        rfl
    case valid =>
      rw [rest.valid, one.valid, sameFaults, faults_cons]
      cases d.fault? r.document <;> simp
    case reports =>
      rw [List.filter_append, one.reports, rest.reports, sameFaults, faults_cons, List.map_append]

namespace Outcomes

variable {ds : List Declaration} {o : Outcome Registry (List (Except Fault Unit))}
  {d : Declaration}

theorem valid_iff (h : Outcomes ds r o) :
    o.state.valid = true ↔ r.valid = true ∧ faults ds r.document = [] := by
  rw [h.valid, Bool.and_eq_true, List.isEmpty_iff]

/-- A setting that is declared in a valid configuration has the declared kind. -/
theorem declares_of_valid (h : Outcomes ds r o) (valid : o.state.valid = true) (mem : d ∈ ds) :
    o.state.declarations.kinds.find? d.key = some d.preset.kind ∧
    o.state.document.find? d.key = d.valueIn r.document := by
  have noFault := List.filterMap_eq_nil_iff.1 (h.valid_iff.1 valid).2 d mem
  exact ⟨h.declares d mem noFault, h.holds d mem noFault⟩

variable {β : Type} {reader : Reader β}

/-- When the configuration is valid, a getter gives what its reader makes of the value in the
document, or else of the default. -/
theorem get_eq_ok (h : Outcomes ds r o) (valid : o.state.valid = true) (mem : d ∈ ds)
    (kind : d.preset.kind = reader.kind) {v : Value} (value : d.valueIn r.document = some v)
    {data : β} (read : reader.read v = some data) : o.state.get reader d.key = .ok data := by
  obtain ⟨declared, held⟩ := h.declares_of_valid valid mem
  exact h.agrees.get_eq_ok (kind ▸ declared) (held.trans value) read

/-- So no getter of the declared kind fails. -/
theorem get_gives (h : Outcomes ds r o) (valid : o.state.valid = true) (mem : d ∈ ds)
    (builtIn : reader.BuiltIn) (kind : d.preset.kind = reader.kind) :
    ∃ v data, d.valueIn r.document = some v ∧ o.state.get reader d.key = .ok data ∧
      reader.Gives v data := by
  obtain ⟨declared, held⟩ := h.declares_of_valid valid mem
  obtain ⟨v, found, fits⟩ := h.agrees d.key d.preset.kind declared
  have value := held.symm.trans found
  obtain ⟨data, read, gives⟩ := builtIn.read_eq_some (fits.trans (congrArg some kind))
  exact ⟨v, data, value, h.get_eq_ok valid mem kind value read, gives⟩

end Outcomes

end StartUp

end TypedSettings
