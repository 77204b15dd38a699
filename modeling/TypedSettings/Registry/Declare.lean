import TypedSettings.Registry.Basic

/-!
# Declarations as programs write them

A program names a setting by the group and the item as it writes them. It declares the setting
under any kind, with or without a default, or by the function of one of the five kinds, which takes
a default of that kind.
-/

namespace TypedSettings
set_option autoImplicit false

/-- What a setting is declared as. -/
inductive Preset where
  /-- Of any kind, with or without a default. -/
  | any (kind : Kind) (default? : Option Value)
  | string (default : String)
  | integer (default : Int64)
  | float (default : Binary64)
  | boolean (default : Bool)
  | stringArray (default : List String)

namespace Preset

/-- The kind that is declared. -/
def kind : Preset → Kind
  | any kind _ => kind
  | string _ => .string
  | integer _ => .integer
  | float _ => .float
  | boolean _ => .boolean
  | stringArray _ => .stringArray

/-- The default that comes with it. -/
def default? : Preset → Option Value
  | any _ default? => default?
  | string content => some (.text content)
  | integer number => some (.integer number)
  | float number => some (.float number)
  | boolean truth => some (.boolean truth)
  | stringArray texts => some (.ofTexts texts)

end Preset

/-- A declaration of a setting. -/
structure Declaration where
  group : String
  item : String
  preset : Preset
  required : Bool

/-- The key of the setting that is declared. -/
def Declaration.key (d : Declaration) : Key := .of d.group d.item

namespace Registry

/-- Makes a declaration by the function that is there for it. -/
def declare (r : Registry) (d : Declaration) : Outcome Registry (Except Fault Unit) :=
  match d.preset with
  | .any kind default? => r.register d.key kind default? d.required
  | .string content => r.registerString d.key content d.required
  | .integer number => r.registerInteger d.key number d.required
  | .float number => r.registerFloat d.key number d.required
  | .boolean truth => r.registerBoolean d.key truth d.required
  | .stringArray texts => r.registerStringArray d.key texts d.required

/-- Every function declares the setting under the kind and with the default of its preset. -/
theorem declare_eq_register (r : Registry) (d : Declaration) :
    r.declare d = r.register d.key d.preset.kind d.preset.default? d.required := by
  obtain ⟨group, item, preset, required⟩ := d
  cases preset <;> rfl

/-- Makes declarations one after the other, whatever each of them is answered. -/
def declareEach (r : Registry) : List Declaration → Outcome Registry (List (Except Fault Unit))
  | [] => .answer [] r
  | d :: ds =>
    let first := r.declare d
    let others := first.state.declareEach ds
    ⟨first.reply :: others.reply, others.state, first.events ++ others.events⟩

@[simp] theorem declareEach_nil (r : Registry) : r.declareEach [] = .answer [] r := rfl

@[simp] theorem state_declareEach_cons (r : Registry) (d : Declaration) (ds : List Declaration) :
    (r.declareEach (d :: ds)).state = ((r.declare d).state.declareEach ds).state := rfl

@[simp] theorem reply_declareEach_cons (r : Registry) (d : Declaration) (ds : List Declaration) :
    (r.declareEach (d :: ds)).reply =
      (r.declare d).reply :: ((r.declare d).state.declareEach ds).reply := rfl

@[simp] theorem events_declareEach_cons (r : Registry) (d : Declaration) (ds : List Declaration) :
    (r.declareEach (d :: ds)).events =
      (r.declare d).events ++ ((r.declare d).state.declareEach ds).events := rfl

end Registry

end TypedSettings
