import TypedSettings.Document
import TypedSettings.Event

/-!
# Sources

A source is asked for a document. It has a name, and it may report events while it looks.
-/

namespace TypedSettings
set_option autoImplicit false

/-- A file that was read, and how many bytes it had. -/
structure FileRead where
  size : Nat
  path : String
  deriving DecidableEq, Repr

/-- What a source gives when it is asked. -/
structure Source where
  name : String
  document : Except Fault Document
  /-- The file that was read for the answer, if the source is a file and could be read. -/
  file? : Option FileRead

namespace Source

/-- What a source reports while it is asked. -/
def events (s : Source) : List Event := (s.file?.map fun f => .fileRead f.size f.path).toList

/-- The source that answers without reading a file. -/
def plain (name : String) (document : Except Fault Document) : Source := ⟨name, document, none⟩

@[simp] theorem name_plain (name : String) (d : Except Fault Document) : (plain name d).name = name :=
  rfl

@[simp] theorem document_plain (name : String) (d : Except Fault Document) :
    (plain name d).document = d := rfl

@[simp] theorem events_plain (name : String) (d : Except Fault Document) :
    (plain name d).events = [] := rfl

end Source

end TypedSettings
