import TypedSettings.Registry.Request

/-!
# Programs over a registry

A program stores values in a document of its own and then acts on a registry over it: it makes
requests, and asks the document about a setting or a whole group. Each group is named as the program
writes it. `perform` takes acts one after the other; a `Program` decides on
each answer what to do next.
-/

namespace TypedSettings
set_option autoImplicit false

/-! ## Documents that a program makes -/

/-- A value that a program stores under a group and an item. -/
structure Placement where
  group : String
  item : String
  value : Value

namespace Document

/-- Stores a value, and gives back the value that it replaces. -/
def place (d : Document) (p : Placement) : Option Value × Document :=
  (d.find? (.of p.group p.item), d.set (.of p.group p.item) p.value)

/-- Stores values one after the other, and gives back what each of them replaces. -/
def placeEach (d : Document) : List Placement → List (Option Value) × Document
  | [] => ([], d)
  | p :: ps =>
    let first := d.place p
    let others := first.2.placeEach ps
    (first.1 :: others.1, others.2)

end Document

/-! ## Acts -/

/-- What a program does to a registry or asks it. -/
inductive Act (α : Type) where
  | request (request : Request α)
  /-- Does the document hold a setting? -/
  | holds (group item : String)
  /-- Does the document hold anything in a group? -/
  | holdsGroup (group : String)
  /-- What does the document hold in a group? -/
  | items (group : String)

/-- The answer to an act. -/
inductive Answer (α : Type) where
  | reply (reply : Reply α)
  | items (answer : List (String × Value))

namespace Registry

variable {α : Type}

/-- Answers an act. -/
def act (r : Registry) : Act α → Outcome Registry (Answer α)
  | .request request => (r.step request).mapReply .reply
  | .holds group item => .answer (.reply (.truth (r.document.contains (.of group item)))) r
  | .holdsGroup group => .answer (.reply (.truth (r.document.hasGroup (.of group)))) r
  | .items group => .answer (.items (r.document.items (.of group))) r

/-- Answers acts one after the other. -/
def perform (r : Registry) : List (Act α) → Outcome Registry (List (Answer α))
  | [] => .answer [] r
  | a :: acts =>
    let first := r.act a
    let others := first.state.perform acts
    ⟨first.reply :: others.reply, others.state, first.events ++ others.events⟩

/-- Makes a document and then acts on a registry over it. -/
def session (ps : List Placement) (acts : List (Act α)) :
    List (Option Value) × Outcome Registry (List (Answer α)) :=
  let stored := Document.empty.placeEach ps
  (stored.1, (ofDocument stored.2).perform acts)

end Registry

/-! ## Programs -/

/-- A program that looks at each answer before its next act. -/
inductive Program (α β : Type) where
  | done (result : β)
  | act (act : Act α) (next : Answer α → Program α β)

namespace Program

variable {α β : Type}

/-- Runs the program on a registry. -/
def exec : Program α β → Registry → Outcome Registry β
  | done result, r => .answer result r
  | act a next, r =>
    let first := r.act a
    let others := (next first.reply).exec first.state
    ⟨others.reply, others.state, first.events ++ others.events⟩

end Program

end TypedSettings
