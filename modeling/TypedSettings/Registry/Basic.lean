import TypedSettings.Declarations
import TypedSettings.Outcome
import TypedSettings.Reader
import TypedSettings.Source

/-!
# The registry of settings

A registry holds a document and the declarations of the settings that a program expects. Each
declaration is checked against the document and fills in what is absent, and a setting is read
only as the kind it was declared as. The registry stays valid until a value of another kind or a
missing required value is found; only a new document makes it valid again.
-/

namespace TypedSettings
set_option autoImplicit false

/-- A document under the declarations of a program. -/
structure Registry where
  document : Document
  declarations : Declarations
  /-- No fault was found that makes the configuration invalid. -/
  valid : Bool
  /-- The name of the source that the document came from. -/
  source : Option String
  deriving DecidableEq

namespace Registry

/-- The registry without a document of its own. -/
def empty : Registry := ⟨.empty, .empty, true, none⟩

instance : Inhabited Registry := ⟨empty⟩

/-- A fresh registry over a document from a source of that name. -/
def fresh (document : Document) (source : String) : Registry :=
  ⟨document, .empty, true, some source⟩

/-- A fresh registry over a document that the program made itself. -/
def ofDocument (document : Document) : Registry := fresh document "document"

/-- The document came from a source. -/
def isInitialized (r : Registry) : Bool := r.source.isSome

/-! ## Loading -/

/-- Replaces everything by what the source holds; if the source fails, nothing changes. -/
def load (r : Registry) (s : Source) : Outcome Registry (Except Fault Unit) :=
  match s.document with
  | .ok document => ⟨.ok (), fresh document s.name, s.events ++ [.loaded document.size s.name]⟩
  | .error fault => ⟨.error fault, r, s.events ++ [.loadFailed s.name fault]⟩

/-- Loads the source that was opened at a path; if opening failed, nothing changes. -/
def loadOpened (r : Registry) (path : String) :
    Except Fault Source → Outcome Registry (Except Fault Unit)
  | .ok source => r.load source
  | .error fault => ⟨.error fault, r, [.openFailed path fault]⟩

/-- A new registry over what the source holds. -/
def ofSource (s : Source) : Outcome Registry (Except Fault Unit) := empty.load s

/-! ## Declaring -/

/-- The value at a key may be declared as a kind; so may an absent one. -/
def accepts (r : Registry) (k : Key) (kind : Kind) : Bool :=
  match r.document.find? k with
  | none => true
  | some v => v.kind? == some kind

/-- What the value at a key is called in messages. -/
def found (r : Registry) (k : Key) : String := (r.document.find? k).elim "" Value.kindName

/-- The value that an absent setting is given: the default if it has the declared kind, or the zero
value of the kind when no default is given. -/
def initial? (kind : Kind) : Option Value → Option Value
  | some v => if v.kind? = some kind then some v else none
  | none => Value.zero? kind

/-- The answer of a call that fails without making the configuration invalid. -/
def refuse (r : Registry) (events : List Event) (fault : Fault) :
    Outcome Registry (Except Fault Unit) :=
  ⟨.error fault, r, events⟩

/-- The answer of a call that finds the configuration invalid. -/
def invalidate (r : Registry) (events : List Event) (fault : Fault) :
    Outcome Registry (Except Fault Unit) :=
  ⟨.error fault, { r with valid := false }, events ++ [.invalidated fault]⟩

/-- Declares a setting that the document has a value for. -/
def registerPresent (r : Registry) (declarations : Declarations) (k : Key) (kind : Kind)
    (value : Value) (required : Bool) : Outcome Registry (Except Fault Unit) :=
  let next := { r with declarations }
  let events := [.registered k kind]
  if required && value.isEmpty then next.invalidate events (.requiredMissing k)
  else ⟨.ok (), next, events⟩

/-- Declares a setting that is absent, and fills it in. -/
def registerAbsent (r : Registry) (declarations : Declarations) (k : Key) (kind : Kind)
    (initial : Value) (required : Bool) : Outcome Registry (Except Fault Unit) :=
  let next := { r with declarations, document := r.document.set k initial }
  let events := [.registered k kind, .defaultUsed initial k]
  if required && initial.isZero then next.invalidate events (.requiredMissing k)
  else ⟨.ok (), next, events⟩

/-- Declares a setting. The default must have the declared kind, a value in the document must have
it too, and the setting must not be declared yet. An absent setting is given its initial value.
A required setting must then not be blank: a value from the document must not be empty, and an
initial value must not be zero. -/
def register (r : Registry) (k : Key) (kind : Kind) (default? : Option Value) (required : Bool) :
    Outcome Registry (Except Fault Unit) :=
  match initial? kind default? with
  | none => r.refuse [] (.invalidDefault k kind)
  | some initial =>
    if !r.accepts k kind then r.invalidate [] (.typeMismatch k kind (r.found k))
    else match r.declarations.declare? k kind with
      | none =>
        let registered := r.declarations.kindOf k
        r.refuse [.alreadyRegistered k registered] (.alreadyRegistered k registered)
      | some declarations =>
        match r.document.find? k with
        | some value => r.registerPresent declarations k kind value required
        | none => r.registerAbsent declarations k kind initial required

/-- Declares a string. -/
def registerString (r : Registry) (k : Key) (default : String) (required : Bool) :
    Outcome Registry (Except Fault Unit) :=
  r.register k .string (some (.text default)) required

/-- Declares an integer. -/
def registerInteger (r : Registry) (k : Key) (default : Int64) (required : Bool) :
    Outcome Registry (Except Fault Unit) :=
  r.register k .integer (some (.integer default)) required

/-- Declares a float. -/
def registerFloat (r : Registry) (k : Key) (default : Binary64) (required : Bool) :
    Outcome Registry (Except Fault Unit) :=
  r.register k .float (some (.float default)) required

/-- Declares a boolean. -/
def registerBoolean (r : Registry) (k : Key) (default : Bool) (required : Bool) :
    Outcome Registry (Except Fault Unit) :=
  r.register k .boolean (some (.boolean default)) required

/-- Declares a string array. -/
def registerStringArray (r : Registry) (k : Key) (default : List String) (required : Bool) :
    Outcome Registry (Except Fault Unit) :=
  r.register k .stringArray (some (.ofTexts default)) required

/-! ## Reading -/

/-- Reads a setting that was declared as the kind of the reader. -/
def get {α : Type} (r : Registry) (reader : Reader α) (k : Key) : Except Fault α :=
  let declared := r.declarations.kindOf k
  if declared = .undefined then .error (.notRegistered k)
  else if declared ≠ reader.kind then .error (.kindMismatch k declared reader.kind)
  else match r.document.find? k with
    | none => .ok reader.fallback
    | some v => match reader.read v with
      | some data => .ok data
      | none => .error (.typeMismatch k declared v.kindName)

/-- Reads a setting, or the fallback of the reader if it cannot be read. -/
def getOrZero {α : Type} (r : Registry) (reader : Reader α) (k : Key) : α :=
  match r.get reader k with
  | .ok data => data
  | .error _ => reader.fallback

/-! ## Small facts -/

theorem load_eq_of_ok (r : Registry) {s : Source} {d : Document} (held : s.document = .ok d) :
    r.load s = ⟨.ok (), fresh d s.name, s.events ++ [.loaded d.size s.name]⟩ := by
  rw [load, held]

theorem load_eq_of_error (r : Registry) {s : Source} {fault : Fault}
    (broken : s.document = .error fault) :
    r.load s = ⟨.error fault, r, s.events ++ [.loadFailed s.name fault]⟩ := by
  rw [load, broken]

@[simp] theorem state_refuse (r : Registry) (es : List Event) (f : Fault) :
    (r.refuse es f).state = r := rfl

@[simp] theorem state_invalidate (r : Registry) (es : List Event) (f : Fault) :
    (r.invalidate es f).state = { r with valid := false } := rfl

@[simp] theorem accepts_empty (k : Key) (kind : Kind) : empty.accepts k kind = true := rfl

theorem initial?_eq_some_kind? {kind : Kind} {d : Option Value} {v : Value}
    (h : initial? kind d = some v) : v.kind? = some kind := by
  cases d with
  | none => exact Value.kind?_of_zero? h
  | some w =>
    simp only [initial?] at h
    split at h <;> simp_all

end Registry

end TypedSettings
