import TypedSettings.IniFile
import TypedSettings.Registry.Declare

/-!
# Requests to a registry

A request is one call of a program on a registry, as data: settings are named by the group and
the item as the program writes them. `step` answers one request and `run` a list of them, so that
what a registry does can be stated of whole histories.
-/

namespace TypedSettings
set_option autoImplicit false

/-- A call on a registry; the readers of its getters give data of type `α`. -/
inductive Request (α : Type) where
  /-- Replace the document by what a source holds. -/
  | load (source : Source)
  /-- Replace the document by what the file at a path holds. -/
  | loadFile (files : FileTree) (path : String)
  /-- Declare a setting. -/
  | register (group item : String) (kind : Kind) (default? : Option Value) (required : Bool)
  /-- Declare a setting by the function that is there for the declaration. -/
  | declare (declaration : Declaration)
  /-- Read a setting. -/
  | get (group item : String) (reader : Reader α)
  /-- Read a setting, or the fallback of the reader. -/
  | getOrZero (group item : String) (reader : Reader α)
  /-- May the value of a setting be declared as a kind? -/
  | accepts (group item : String) (kind : Kind)
  /-- Is a setting declared? -/
  | isRegistered (group item : String)
  /-- What is a setting declared as? -/
  | registeredKind (group item : String)
  /-- What does the document hold for a setting? -/
  | valueAt (group item : String)
  /-- What does the document hold? -/
  | document
  /-- What is declared? -/
  | declarations

/-- The answer to a request. -/
inductive Reply (α : Type) where
  | done (result : Except Fault Unit)
  | data (result : Except Fault α)
  | truth (answer : Bool)
  | kind (answer : Kind)
  | value (answer : Option Value)
  | document (answer : Document)
  | declarations (answer : Declarations)

namespace Registry

variable {α : Type}

/-- Answers a request. -/
def step (r : Registry) : Request α → Outcome Registry (Reply α)
  | .load source => (r.load source).mapReply .done
  | .loadFile files path => (r.loadFile files path).mapReply .done
  | .register group item kind default? required =>
    (r.register (.of group item) kind default? required).mapReply .done
  | .declare declaration => (r.declare declaration).mapReply .done
  | .get group item reader => .answer (.data (r.get reader (.of group item))) r
  | .getOrZero group item reader => .answer (.data (.ok (r.getOrZero reader (.of group item)))) r
  | .accepts group item kind => .answer (.truth (r.accepts (.of group item) kind)) r
  | .isRegistered group item => .answer (.truth (r.declarations.contains (.of group item))) r
  | .registeredKind group item => .answer (.kind (r.declarations.kindOf (.of group item))) r
  | .valueAt group item => .answer (.value (r.document.find? (.of group item))) r
  | .document => .answer (.document r.document) r
  | .declarations => .answer (.declarations r.declarations) r

/-- Answers requests one after the other. -/
def run (r : Registry) : List (Request α) → Outcome Registry (List (Reply α))
  | [] => .answer [] r
  | q :: qs =>
    let first := r.step q
    let others := first.state.run qs
    ⟨first.reply :: others.reply, others.state, first.events ++ others.events⟩

@[simp] theorem run_nil (r : Registry) : r.run ([] : List (Request α)) = .answer [] r := rfl

@[simp] theorem state_run_cons (r : Registry) (q : Request α) (qs : List (Request α)) :
    (r.run (q :: qs)).state = ((r.step q).state.run qs).state := rfl

@[simp] theorem reply_run_cons (r : Registry) (q : Request α) (qs : List (Request α)) :
    (r.run (q :: qs)).reply = (r.step q).reply :: ((r.step q).state.run qs).reply := rfl

@[simp] theorem events_run_cons (r : Registry) (q : Request α) (qs : List (Request α)) :
    (r.run (q :: qs)).events = (r.step q).events ++ ((r.step q).state.run qs).events := rfl

theorem state_run_append (r : Registry) (ps qs : List (Request α)) :
    (r.run (ps ++ qs)).state = ((r.run ps).state.run qs).state := by
  induction ps generalizing r with
  | nil => rfl
  | cons p ps ih => simp [ih]

end Registry

end TypedSettings
