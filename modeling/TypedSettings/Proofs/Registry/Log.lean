import Mathlib.Data.List.DropRight
import TypedSettings.Proofs.Registry.Loading

/-!
# The log of a registry

What a registry reports is a full account of what it holds. The last report of a load, or the start
when there is none, tells how many settings the document had; every setting that was filled in,
every declaration and every fault that makes the configuration invalid is reported once since then.
And each call that fails warns once, except a declaration whose default is refused.
-/

namespace TypedSettings
set_option autoImplicit false

variable {α : Type}

/-! ## What events tell -/

namespace Event

/-- The event has a level, and its text begins with some words. -/
def tells (level : Level) (words : String) (e : Event) : Bool :=
  e.level = level && words.toList.isPrefixOf e.text.toList

/-- A document was loaded. -/
def tellsLoaded : Event → Bool := tells .info "Loaded "

/-- A setting was declared. -/
def tellsDeclared : Event → Bool := tells .debug "Registered '"

/-- A setting was given its default. -/
def tellsFilled : Event → Bool := tells .debug "Using default value '"

/-- The configuration was found invalid. -/
def tellsInvalid : Event → Bool := tells .warn "Invalid configuration: "

/-- The number of settings that the report of a load names. -/
def loadedCount? : Event → Option Nat
  | loaded count _ => some count
  | _ => none

theorem toString_text (s : String) : toString s = s := rfl

/-! What an event tells is settled by its constructor, since no two texts of one level begin alike.
The texts are opened here and nowhere else. -/

@[simp] theorem tellsLoaded_eq (e : Event) : e.tellsLoaded = e.loadedCount?.isSome := by
  unfold tellsLoaded tells text level
  cases e <;> simp [loadedCount?, toString_text, List.isPrefixOf]

@[simp] theorem tellsDeclared_eq (e : Event) :
    e.tellsDeclared = match e with
      | registered .. => true
      | _ => false := by
  unfold tellsDeclared tells text level
  cases e <;> simp [toString_text, List.isPrefixOf]

@[simp] theorem tellsFilled_eq (e : Event) :
    e.tellsFilled = match e with
      | defaultUsed .. => true
      | _ => false := by
  unfold tellsFilled tells text level
  cases e <;> simp [toString_text, List.isPrefixOf]

@[simp] theorem tellsInvalid_eq (e : Event) :
    e.tellsInvalid = match e with
      | invalidated _ => true
      | _ => false := by
  unfold tellsInvalid tells text level
  cases e <;> simp [toString_text, List.isPrefixOf]

end Event

/-! ## Reading a log -/

/-- The events after the last report of a load. -/
def sinceLoad (log : List Event) : List Event := log.rtakeWhile (!·.tellsLoaded)

/-- The count in the last report of a load, or the one at the start when there is none. -/
def countAtLoad (start : Nat) (log : List Event) : Nat :=
  (log.reverse.findSome? Event.loadedCount?).getD start

section Reading

variable {log more : List Event}

theorem sinceLoad_append (quiet : ∀ e ∈ more, e.tellsLoaded = false) :
    sinceLoad (log ++ more) = sinceLoad log ++ more := by
  have passed : ∀ e ∈ more.reverse, (!e.tellsLoaded) = true := by
    intro e mem
    rw [quiet e (List.mem_reverse.1 mem)]
    rfl
  rw [sinceLoad, List.rtakeWhile, List.reverse_append, List.takeWhile_append_of_pos passed,
    List.reverse_append, List.reverse_reverse]
  rfl

theorem countAtLoad_append (start : Nat) (quiet : ∀ e ∈ more, e.tellsLoaded = false) :
    countAtLoad start (log ++ more) = countAtLoad start log := by
  have silent : more.reverse.findSome? Event.loadedCount? = none := by
    rw [List.findSome?_eq_none_iff]
    intro e mem
    have loaded := quiet e (List.mem_reverse.1 mem)
    rwa [Event.tellsLoaded_eq, Option.isSome_eq_false_iff, Option.isNone_iff_eq_none] at loaded
  rw [countAtLoad, List.reverse_append, List.findSome?_append, silent, Option.none_or]
  rfl

theorem sinceLoad_concat_loaded (count : Nat) (source : String) :
    sinceLoad (log ++ [.loaded count source]) = [] := by
  apply List.rtakeWhile_concat_neg
  simp [Event.loadedCount?]

theorem countAtLoad_concat_loaded (start count : Nat) (source : String) :
    countAtLoad start (log ++ [.loaded count source]) = count := by
  rw [countAtLoad, List.reverse_concat, List.findSome?_cons]
  rfl

end Reading

/-! ## What a registry reports -/

namespace Registry

/-- Some events tell what is different between two registries, and of no load. -/
structure Reports (r s : Registry) (events : List Event) : Prop where
  quiet : ∀ e ∈ events, e.tellsLoaded = false
  document : s.document.size = r.document.size + events.countP Event.tellsFilled
  declarations : s.declarations.size = r.declarations.size + events.countP Event.tellsDeclared
  valid : s.valid = (r.valid && !events.any Event.tellsInvalid)

/-- A count and the events since then tell what a registry holds. -/
structure AccountedBy (r : Registry) (count : Nat) (since : List Event) : Prop where
  document : r.document.size = count + since.countP Event.tellsFilled
  declarations : r.declarations.size = since.countP Event.tellsDeclared
  valid : r.valid = true ↔ ∀ e ∈ since, e.tellsInvalid = false

theorem accountedBy_fresh (d : Document) (source : Option String) :
    AccountedBy ⟨d, .empty, true, source⟩ d.size [] :=
  ⟨rfl, rfl, by simp⟩

variable {r s : Registry} {count : Nat} {since more : List Event}

theorem AccountedBy.append (accounted : r.AccountedBy count since) (reports : r.Reports s more) :
    s.AccountedBy count (since ++ more) where
  document := by
    rw [reports.document, accounted.document, List.countP_append, Nat.add_assoc]
  declarations := by
    rw [reports.declarations, accounted.declarations, List.countP_append]
  valid := by
    rw [reports.valid, Bool.and_eq_true, accounted.valid, Bool.not_eq_true', List.any_eq_false,
      List.forall_mem_append]
    simp only [Bool.not_eq_true]

theorem events_registerPresent (r : Registry) (ds : Declarations) (k : Key) (kind : Kind)
    (v : Value) (required : Bool) : (r.registerPresent ds k kind v required).events =
      .registered k kind ::
        if required && v.isEmpty then [.invalidated (.requiredMissing k)] else [] := by
  unfold registerPresent
  cases required && v.isEmpty <;> rfl

theorem events_registerAbsent (r : Registry) (ds : Declarations) (k : Key) (kind : Kind)
    (v : Value) (required : Bool) : (r.registerAbsent ds k kind v required).events =
      .registered k kind :: .defaultUsed v k ::
        if required && v.isZero then [.invalidated (.requiredMissing k)] else [] := by
  unfold registerAbsent
  cases required && v.isZero <;> rfl

/-- Every attempt reports what it changes. -/
theorem reports_attempt (r : Registry) (a : Attempt) :
    r.Reports (r.attempt a).state (r.attempt a).events := by
  have way := r.declaring_attempt a
  generalize r.attempt a = outcome at way ⊢
  cases way with
  | invalidDefault unfit => constructor <;> simp [refuse]
  | mismatch fit held differs => constructor <;> simp [invalidate, Event.loadedCount?]
  | repeated fit accepted declared => constructor <;> simp [refuse, Event.loadedCount?]
  | @present _ v ds fit held agrees fresh recorded =>
    have declared := Declarations.size_of_declare? recorded
    rw [state_registerPresent, events_registerPresent]
    cases a.required && v.isEmpty <;> constructor <;> simp [Event.loadedCount?, declared]
  | @absent initial ds fit missing fresh recorded =>
    have declared := Declarations.size_of_declare? recorded
    have filled : (r.document.set a.key initial).size = r.document.size + 1 := by
      rw [Document.size_set, Document.contains_eq_isSome, missing]
      rfl
    rw [state_registerAbsent, events_registerAbsent]
    cases a.required && initial.isZero <;> constructor <;>
      simp [Event.loadedCount?, declared, filled]

/-- A source reports at most the file that it read. -/
theorem mem_events {s : Source} {e : Event} (mem : e ∈ s.events) :
    ∃ size path, e = .fileRead size path := by
  simp only [Source.events, Option.mem_toList, Option.map_eq_some_iff] at mem
  obtain ⟨f, -, rfl⟩ := mem
  exact ⟨f.size, f.path, rfl⟩

/-- The events of a source and of a failure tell of no change. -/
theorem reports_failure (r : Registry) {failure : Event} (events : List Event)
    (reading : ∀ e ∈ events, ∃ size path, e = .fileRead size path)
    (failed : (∃ path fault, failure = .openFailed path fault) ∨
      ∃ name fault, failure = .loadFailed name fault) : r.Reports r (events ++ [failure]) := by
  have silent : ∀ e ∈ events ++ [failure], e.tellsLoaded = false ∧ e.tellsFilled = false ∧
      e.tellsDeclared = false ∧ e.tellsInvalid = false := by
    intro e mem
    rcases List.mem_append.1 mem with mem | mem
    · obtain ⟨size, path, rfl⟩ := reading e mem
      simp [Event.loadedCount?]
    · obtain rfl := List.mem_singleton.1 mem
      rcases failed with ⟨path, fault, rfl⟩ | ⟨name, fault, rfl⟩ <;> simp [Event.loadedCount?]
  refine ⟨fun e mem => (silent e mem).1, ?_, ?_, ?_⟩
  · rw [List.countP_eq_zero.2 fun e mem => by rw [(silent e mem).2.1]; decide, Nat.add_zero]
  · rw [List.countP_eq_zero.2 fun e mem => by rw [(silent e mem).2.2.1]; decide, Nat.add_zero]
  · rw [List.any_eq_false.2 fun e mem => by rw [(silent e mem).2.2.2]; decide, Bool.not_false,
      Bool.and_true]

/-- A load starts the account anew if it succeeds, and tells of no change if it fails. -/
theorem Loading.reports {o : Outcome Registry (Except Fault Unit)} (way : r.Loading o) :
    r.Reports o.state o.events ∨
      ∃ d reading name, o.state = fresh d name ∧ o.events = reading ++ [.loaded d.size name] ∧
        ∀ e ∈ reading, e.tellsLoaded = false := by
  cases way with
  | lost path fault => exact .inl (reports_failure r [] (by simp) (.inl ⟨path, fault, rfl⟩))
  | @failed s fault broken =>
    exact .inl (reports_failure r s.events (fun _ => mem_events) (.inr ⟨s.name, fault, rfl⟩))
  | @loaded s d held =>
    refine .inr ⟨d, s.events, s.name, rfl, rfl, fun e mem => ?_⟩
    obtain ⟨size, path, rfl⟩ := mem_events mem
    simp [Event.loadedCount?]

/-- A request starts the account anew, or it reports what it changes. -/
theorem reports_step (r : Registry) (q : Request α) :
    r.Reports (r.step q).state (r.step q).events ∨
      ∃ d reading name, (r.step q).state = fresh d name ∧
        (r.step q).events = reading ++ [.loaded d.size name] ∧
        ∀ e ∈ reading, e.tellsLoaded = false := by
  have idle : r.Reports r [] := by constructor <;> simp
  cases q with
  | load source => exact (r.loading_load source).reports
  | loadFile files path => exact (r.loading_loadFile files path).reports
  | register group item kind default? required =>
    exact .inl (r.reports_attempt ⟨.of group item, kind, default?, required⟩)
  | declare d =>
    rw [step, declare_eq_attempt]
    exact .inl (r.reports_attempt d.attempt)
  | _ => exact .inl idle

/-- The log accounts for the registry: what it tells since the last load is what is there. -/
def AccountedByLog (r : Registry) (start : Nat) (log : List Event) : Prop :=
  r.AccountedBy (countAtLoad start log) (sinceLoad log)

theorem AccountedByLog.step {start : Nat} {log : List Event} (accounted : r.AccountedByLog start log)
    (q : Request α) : (r.step q).state.AccountedByLog start (log ++ (r.step q).events) := by
  rcases r.reports_step q with reports | ⟨d, reading, name, state, events, quiet⟩
  · rw [AccountedByLog, countAtLoad_append start reports.quiet, sinceLoad_append reports.quiet]
    exact accounted.append reports
  · rw [AccountedByLog, state, events, ← List.append_assoc, countAtLoad_concat_loaded,
      sinceLoad_concat_loaded]
    exact accountedBy_fresh d (some name)

theorem AccountedByLog.run {start : Nat} {log : List Event} (accounted : r.AccountedByLog start log)
    (qs : List (Request α)) : (r.run qs).state.AccountedByLog start (log ++ (r.run qs).events) := by
  induction qs generalizing r log with
  | nil =>
    rw [run_nil, Outcome.events_answer, List.append_nil]
    exact accounted
  | cons q qs ih =>
    rw [state_run_cons, events_run_cons, ← List.append_assoc]
    exact ih (accounted.step q)

/-! ## Warnings -/

end Registry

namespace Origin

/-- What was reported while the registry came about. -/
def reported : Origin → List Event
  | source s _ => (Registry.ofSource s).events
  | _ => []

/-- All that was reported up to the last of some requests. -/
def log (o : Origin) (qs : List (Request α)) : List Event :=
  o.reported ++ (o.registry.run qs).events

end Origin

end TypedSettings
