import TypedSettings.Proofs.Registry.Declaring
import TypedSettings.Registry.Request

/-!
# Histories of registries

What happened to a registry is told in two parts: the document that it started with or loaded
last, and the attempts to declare a setting since then. A history is read off the requests alone,
not off the registry or its answers. `Origin.follow` is the one induction over runs: what a fresh
registry has and each attempt keeps holds between every history and the registry that lived it.
-/

namespace TypedSettings
set_option autoImplicit false

variable {α : Type}

namespace Request

/-- The document that a request brings in. A load that fails brings none, and neither does any
other request. -/
def loaded? : Request α → Option Document
  | .load source => source.document.toOption
  | .loadFile files path => (IniFile.sourceAt files path).toOption.bind (·.document.toOption)
  | _ => none

/-- The attempt that a request makes. A declaration by the function of one kind is an attempt under
that kind. -/
def attempt? : Request α → Option Attempt
  | .register group item kind default? required => some ⟨.of group item, kind, default?, required⟩
  | .declare declaration => some declaration.attempt
  | _ => none

theorem loaded?_of_attempt {q : Request α} {a : Attempt} (h : q.attempt? = some a) :
    q.loaded? = none := by
  cases q with
  | register | declare => rfl
  | _ => simp [attempt?] at h

end Request

/-! ## What one request does -/

namespace Registry

/-- A request that brings a document in succeeds and leaves a fresh registry over it. -/
theorem step_of_loaded {q : Request α} {d : Document} (h : q.loaded? = some d) (r : Registry) :
    ∃ name, (r.step q).state = fresh d name ∧ (r.step q).reply = .done (.ok ()) := by
  cases q with
  | load source =>
    cases held : source.document with
    | error f => simp [Request.loaded?, held, Except.toOption] at h
    | ok e =>
      obtain rfl : e = d := by simpa [Request.loaded?, held, Except.toOption] using h
      exact ⟨source.name, by simp [step, load_eq_of_ok r held],
        by simp [step, load_eq_of_ok r held]⟩
  | loadFile files path =>
    cases opened : IniFile.sourceAt files path with
    | error f => simp [Request.loaded?, opened, Except.toOption] at h
    | ok source =>
      cases held : source.document with
      | error f => simp [Request.loaded?, opened, held, Except.toOption] at h
      | ok e =>
        obtain rfl : e = d := by simpa [Request.loaded?, opened, held, Except.toOption] using h
        exact ⟨source.name, by simp [step, loadFile, opened, loadOpened, load_eq_of_ok r held],
          by simp [step, loadFile, opened, loadOpened, load_eq_of_ok r held]⟩
  | _ => simp [Request.loaded?] at h

theorem step_of_attempt {q : Request α} {a : Attempt} (h : q.attempt? = some a) (r : Registry) :
    r.step q = (r.attempt a).mapReply .done := by
  cases q with
  | register group item kind default? required =>
    obtain rfl := Option.some.inj h
    rfl
  | declare d =>
    obtain rfl := Option.some.inj h
    rw [step, declare_eq_attempt]
  | _ => simp [Request.attempt?] at h

/-- A load that fails and a request that only reads leave the registry as it was. -/
theorem state_step_of_idle {q : Request α} (noDocument : q.loaded? = none)
    (noAttempt : q.attempt? = none) (r : Registry) : (r.step q).state = r := by
  cases q with
  | register | declare => simp [Request.attempt?] at noAttempt
  | load source =>
    cases held : source.document with
    | error f => simp [step, load_eq_of_error r held]
    | ok d => simp [Request.loaded?, held, Except.toOption] at noDocument
  | loadFile files path =>
    cases opened : IniFile.sourceAt files path with
    | error f => simp [step, loadFile, opened, loadOpened]
    | ok source =>
      cases held : source.document with
      | error f => simp [step, loadFile, opened, loadOpened, load_eq_of_error r held]
      | ok d => simp [Request.loaded?, opened, held, Except.toOption] at noDocument
  | _ => rfl

end Registry

/-! ## Histories -/

/-- The document that a registry started with or loaded last, and the attempts since then in the
order in which they were made. -/
structure History where
  document : Document
  attempts : List Attempt

namespace History

/-- Nothing happened yet. -/
def start (d : Document) : History := ⟨d, []⟩

/-- One more attempt was made. -/
def add (h : History) (a : Attempt) : History := { h with attempts := h.attempts ++ [a] }

/-- A document that is loaded starts a new history, an attempt goes on with the old one, and
nothing else is remembered. -/
def next (h : History) (q : Request α) : History :=
  match q.loaded?, q.attempt? with
  | some d, _ => start d
  | none, some a => h.add a
  | none, none => h

/-- The history after requests. -/
def after (h : History) (qs : List (Request α)) : History := qs.foldl next h

theorem next_of_loaded {q : Request α} {d : Document} (loaded : q.loaded? = some d) (h : History) :
    h.next q = start d := by
  simp [next, loaded]

theorem next_of_attempt {q : Request α} {a : Attempt} (made : q.attempt? = some a) (h : History) :
    h.next q = h.add a := by
  simp [next, Request.loaded?_of_attempt made, made]

theorem next_of_idle {q : Request α} (noDocument : q.loaded? = none)
    (noAttempt : q.attempt? = none) (h : History) : h.next q = h := by
  simp [next, noDocument, noAttempt]

/-- As long as no document is brought in, the attempts that are made add up. -/
theorem after_of_no_document (h : History) {qs : List (Request α)}
    (kept : ∀ q ∈ qs, q.loaded? = none) :
    h.after qs = ⟨h.document, h.attempts ++ qs.filterMap Request.attempt?⟩ := by
  induction qs generalizing h with
  | nil => rw [List.filterMap_nil, List.append_nil]; rfl
  | cons q qs ih =>
    obtain ⟨first, others⟩ := List.forall_mem_cons.1 kept
    show (h.next q).after qs = _
    rw [ih _ others]
    cases made : q.attempt? with
    | none => rw [next_of_idle first made, List.filterMap_cons_none made]
    | some a =>
      rw [next_of_attempt made, List.filterMap_cons_some made, add, List.append_assoc,
        List.singleton_append]

end History

/-! ## Origins and runs -/

/-- How a registry comes about: without a document, over one that the program made, or from a
source that gave one. -/
inductive Origin where
  | empty
  | document (d : Document)
  | source (s : Source) (loaded : (Registry.ofSource s).reply = .ok ())

namespace Origin

/-- The registry that comes about. -/
def registry : Origin → Registry
  | empty => .empty
  | document d => .ofDocument d
  | source s _ => (Registry.ofSource s).state

/-- The registry after requests. -/
def after (o : Origin) (qs : List (Request α)) : Registry := (o.registry.run qs).state

/-- What happened to the registry after requests. -/
def history (o : Origin) (qs : List (Request α)) : History :=
  (History.start o.registry.document).after qs

/-- Every registry comes about without declarations and valid. -/
theorem registry_eq (o : Origin) :
    ∃ source, o.registry = ⟨o.registry.document, .empty, true, source⟩ := by
  cases o with
  | empty => exact ⟨none, rfl⟩
  | document d => exact ⟨_, rfl⟩
  | source s loaded =>
    cases held : s.document with
    | error f =>
      rw [Registry.ofSource, Registry.load_eq_of_error .empty held] at loaded
      cases loaded
    | ok d =>
      refine ⟨some s.name, ?_⟩
      simp [registry, Registry.ofSource, Registry.load_eq_of_ok .empty held, Registry.fresh]

/-- What relates a fresh registry to the history without attempts, and is kept by every attempt,
relates each registry to its own history. -/
theorem follow {P : History → Registry → Prop}
    (fresh : ∀ d source, P (.start d) ⟨d, .empty, true, source⟩)
    (attempt : ∀ h r a, P h r → P (h.add a) (r.attempt a).state)
    (o : Origin) (qs : List (Request α)) : P (o.history qs) (o.after qs) := by
  have run : ∀ (qs : List (Request α)) h r, P h r → P (h.after qs) (r.run qs).state := by
    intro qs
    induction qs with
    | nil => exact fun h r holds => holds
    | cons q qs ih =>
      intro h r holds
      refine ih (h.next q) (r.step q).state ?_
      cases loaded : q.loaded? with
      | some d =>
        obtain ⟨name, state, -⟩ := Registry.step_of_loaded loaded r
        rw [History.next_of_loaded loaded, state]
        exact fresh d (some name)
      | none =>
        cases made : q.attempt? with
        | some a =>
          rw [History.next_of_attempt made, Registry.step_of_attempt made]
          exact attempt h r a holds
        | none =>
          rw [History.next_of_idle loaded made, Registry.state_step_of_idle loaded made]
          exact holds
  obtain ⟨source, origin⟩ := o.registry_eq
  refine run qs _ _ ?_
  rw [origin]
  exact fresh o.registry.document source

end Origin

end TypedSettings
