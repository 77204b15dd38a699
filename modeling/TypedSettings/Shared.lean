import TypedSettings.Registry.Request

/-!
# The shared registry of a process

A process may keep one registry for all of its parts. It is set up once; until then every use of
it fails, and afterwards every attempt to set it up again fails without any effect.
-/

namespace TypedSettings
set_option autoImplicit false

/-- The one registry of a process, once it is set up. -/
structure Shared where
  registry? : Option Registry
  deriving DecidableEq

namespace Shared

variable {α : Type}

/-- No registry is set up. -/
def empty : Shared := ⟨none⟩

instance : Inhabited Shared := ⟨empty⟩

/-- The registry is set up. -/
def isInitialized (s : Shared) : Bool := s.registry?.isSome

/-- The registry is set up, and its configuration is valid. -/
def isValid (s : Shared) : Bool := s.registry?.any Registry.valid

/-- Sets the registry up by a loading of an empty one, unless it is set up already. -/
def initBy (s : Shared) (load : Registry → Outcome Registry (Except Fault Unit)) :
    Outcome Shared (Except Fault Unit) :=
  match s.registry? with
  | some _ => .answer (.error .alreadyInitialized) s
  | none =>
    let loaded := load .empty
    match loaded.reply with
    | .ok () => ⟨.ok (), ⟨some loaded.state⟩, loaded.events⟩
    | .error fault => ⟨.error fault, s, loaded.events⟩

/-- Sets the registry up from a source. -/
def init (s : Shared) (source : Source) : Outcome Shared (Except Fault Unit) :=
  s.initBy (·.load source)

/-- Sets the registry up from the file at a path. -/
def initFile (s : Shared) (files : FileTree) (path : String) : Outcome Shared (Except Fault Unit) :=
  s.initBy (·.loadFile files path)

/-- Drops the registry, so that it can be set up again. -/
def reset (_ : Shared) : Shared := empty

/-- Uses the registry. -/
def use (s : Shared) (f : Registry → Outcome Registry α) : Outcome Shared (Except Fault α) :=
  match s.registry? with
  | none => .answer (.error .notInitialized) s
  | some r => ((f r).mapState fun next => ⟨some next⟩).mapReply .ok

/-- Declares a setting of the registry. -/
def declare (s : Shared) (d : Declaration) : Outcome Shared (Except Fault Unit) :=
  (s.use fun r => r.declare d).mapReply fun reply => reply.bind id

/-- Reads a setting of the registry. -/
def get (s : Shared) (reader : Reader α) (k : Key) : Except Fault α :=
  match s.registry? with
  | none => .error .notInitialized
  | some r => r.get reader k

/-! ## Requests -/

/-- A call on the shared registry. -/
inductive Call (α : Type) where
  | init (source : Source)
  | initFile (files : FileTree) (path : String)
  | reset
  | isInitialized
  | isValid
  /-- Declare a setting. -/
  | declare (declaration : Declaration)
  /-- Read a setting. -/
  | get (group item : String) (reader : Reader α)
  /-- Make one request to the registry. -/
  | use (request : Request α)
  /-- Do anything to the registry. -/
  | visit (f : Registry → Outcome Registry α)

/-- Answers a call. -/
def step (s : Shared) : Call α → Outcome Shared (Except Fault (Reply α))
  | .init source => (s.init source).mapReply (Except.map fun _ => .done (.ok ()))
  | .initFile files path => (s.initFile files path).mapReply (Except.map fun _ => .done (.ok ()))
  | .reset => .answer (.ok (.done (.ok ()))) s.reset
  | .isInitialized => .answer (.ok (.truth s.isInitialized)) s
  | .isValid => .answer (.ok (.truth s.isValid)) s
  | .declare declaration => (s.declare declaration).mapReply (Except.map fun _ => .done (.ok ()))
  | .get group item reader =>
    .answer ((s.get reader (.of group item)).map fun data => .data (.ok data)) s
  | .use request => s.use (·.step request)
  | .visit f => (s.use f).mapReply (Except.map fun data => .data (.ok data))

/-- Answers calls one after the other. -/
def run (s : Shared) : List (Call α) → Outcome Shared (List (Except Fault (Reply α)))
  | [] => .answer [] s
  | c :: cs =>
    let first := s.step c
    let others := first.state.run cs
    ⟨first.reply :: others.reply, others.state, first.events ++ others.events⟩

theorem state_run_append (s : Shared) (cs ds : List (Call α)) :
    (s.run (cs ++ ds)).state = ((s.run cs).state.run ds).state := by
  induction cs generalizing s with
  | nil => rfl
  | cons c cs ih => exact ih (s.step c).state

@[simp] theorem isInitialized_empty : empty.isInitialized = false := rfl

@[simp] theorem isValid_empty : empty.isValid = false := rfl

theorem initBy_some (r : Registry) (load : Registry → Outcome Registry (Except Fault Unit)) :
    (Shared.mk (some r)).initBy load = .answer (.error .alreadyInitialized) ⟨some r⟩ := rfl

theorem initBy_empty_of_ok {load : Registry → Outcome Registry (Except Fault Unit)}
    (loaded : (load .empty).reply = .ok ()) :
    empty.initBy load = ⟨.ok (), ⟨some (load .empty).state⟩, (load .empty).events⟩ := by
  simp only [initBy, empty, loaded]

theorem initBy_empty_of_error {load : Registry → Outcome Registry (Except Fault Unit)}
    {fault : Fault} (failed : (load .empty).reply = .error fault) :
    empty.initBy load = ⟨.error fault, empty, (load .empty).events⟩ := by
  simp only [initBy, empty, failed]

theorem use_none (f : Registry → Outcome Registry α) :
    empty.use f = .answer (.error .notInitialized) empty := rfl

theorem use_some (r : Registry) (f : Registry → Outcome Registry α) :
    (Shared.mk (some r)).use f = ⟨.ok (f r).reply, ⟨some (f r).state⟩, (f r).events⟩ := rfl

end Shared

end TypedSettings
