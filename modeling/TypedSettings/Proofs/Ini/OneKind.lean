import TypedSettings.Proofs.Ini.RoundTrip
import TypedSettings.Proofs.Registry.Checks
import TypedSettings.Proofs.Registry.Loading

/-!
# The kinds of settings that were read

Whatever INI text is read, each of its settings has one kind. It can be declared as this kind and
then be read by the getter of the kind only, and declaring it as any other kind is a fault that
takes the validity. Texts spell no tables, and these are the only values without a kind.
-/

namespace TypedSettings
set_option autoImplicit false

/-! ## Data of values -/

namespace Reader

/-- The data that a built-in reader gives for a value of its kind: the content of a scalar, or the
texts of the elements of an array in their order. -/
inductive Gives : {β : Type} → Reader β → Value → β → Prop where
  | string (content : String) : Gives string (.text content) content
  | integer (number : Int64) : Gives integer (.integer number) number
  | float (number : Binary64) : Gives float (.float number) number
  | boolean (truth : Bool) : Gives boolean (.boolean truth) truth
  | stringArray (elements : List Value) :
      Gives stringArray (.array elements) (elements.map Value.render)

/-- A built-in reader gives the data of each value of its kind. -/
theorem BuiltIn.read_eq_some {β : Type} {reader : Reader β} (builtIn : reader.BuiltIn) {v : Value}
    (fits : v.kind? = some reader.kind) :
    ∃ data, reader.read v = some data ∧ reader.Gives v data := by
  cases builtIn with
  | string =>
    cases v with
    | text content => exact ⟨content, rfl, .string content⟩
    | _ => cases fits
  | integer =>
    cases v with
    | integer number => exact ⟨number, rfl, .integer number⟩
    | _ => cases fits
  | float =>
    cases v with
    | float number => exact ⟨number, rfl, .float number⟩
    | _ => cases fits
  | boolean =>
    cases v with
    | boolean truth => exact ⟨truth, rfl, .boolean truth⟩
    | _ => cases fits
  | stringArray =>
    cases v with
    | array elements => exact ⟨elements.map Value.render, rfl, .stringArray elements⟩
    | _ => cases fits

end Reader

/-! ## Settings of one kind -/

namespace Registry

/-- A setting with a value can be declared as one kind only. Declared so, it is read by the getter of
this kind only; declared as another kind, it stays undeclared and takes the validity. -/
structure HasOneKind (r : Registry) (k : Key) (v : Value) (kind : Kind) : Prop where
  isDefined : kind.isDefined = true
  reply_iff : ∀ other, (r.register k other none false).reply = .ok () ↔ other = kind
  valid : (r.register k kind none false).state.valid = true
  get_eq : ∀ {β : Type} (reader : Reader β), reader.BuiltIn → reader.kind = kind →
    ∃ data, (r.register k kind none false).state.get reader k = .ok data ∧ reader.Gives v data
  get_other : ∀ {β : Type} (reader : Reader β), reader.BuiltIn → reader.kind ≠ kind →
    (r.register k kind none false).state.get reader k =
      .error (.kindMismatch k kind reader.kind)
  register_other : ∀ other, other.isDefined = true → other ≠ kind →
    (r.register k other none false).reply = .error (.typeMismatch k other v.kindName) ∧
    (r.register k other none false).state.declarations.contains k = false ∧
    (r.register k other none false).state.document = r.document ∧
    (r.register k other none false).state.valid = false

/-- The attempt to declare a setting without a default and without requiring it. -/
def plain (k : Key) (kind : Kind) : Attempt := ⟨k, kind, none, false⟩

/-- A setting of a valid registry without declarations has the kind of its value. -/
theorem hasOneKind_of_fresh {r : Registry} {k : Key} {v : Value} {kind : Kind}
    (undeclared : r.declarations = .empty) (valid : r.valid = true)
    (held : r.document.find? k = some v) (fits : v.kind? = some kind) :
    r.HasOneKind k v kind := by
  have agrees : r.Agrees := by
    intro l other declared
    rw [undeclared] at declared
    cases declared
  have fresh : ∀ l, r.declarations.contains l = false := by
    intro l
    rw [undeclared]
    rfl
  have defined : kind.isDefined = true := by
    rw [Kind.isDefined_eq_true_iff]
    rintro rfl
    exact v.kind?_ne_undefined fits
  have accepts_iff : ∀ other, r.accepts k other = true ↔ other = kind := by
    intro other
    rw [accepts_eq_true_iff]
    constructor
    · intro accepted
      exact Option.some.inj ((accepted v held).symm.trans fits)
    · rintro rfl w found
      rw [← Option.some.inj (held.symm.trans found), fits]
  have grounds : r.Grounds (plain k kind) .accepted :=
    ⟨⟨defined, (accepts_iff kind).2 rfl, fresh k⟩, fun blank => Bool.false_ne_true blank.1⟩
  obtain ⟨accepted, records, keeps⟩ := agrees.outcome_of_grounds grounds
  have value := records.held
  rw [show (plain k kind).key = k from rfl, held, Option.some_or] at value
  have agrees_after := agrees.attempt (plain k kind)
  constructor
  case isDefined => exact defined
  case reply_iff =>
    intro other
    constructor
    · intro answer
      have passed := ((agrees.reply_eq_iff (plain k other) .accepted).1 answer).1
      exact (accepts_iff other).1 passed.accepted
    · rintro rfl
      exact accepted
  case valid => exact keeps.trans valid
  case get_eq =>
    rintro β reader builtIn rfl
    obtain ⟨data, read, gives⟩ := builtIn.read_eq_some fits
    exact ⟨data, agrees_after.get_eq_ok records.declared value read, gives⟩
  case get_other =>
    intro β reader builtIn differs
    exact agrees_after.get_of_differs records.declared (Ne.symm differs)
  case register_other =>
    intro other otherDefined differs
    have clash : r.Grounds (plain k other) .typeMismatch :=
      ⟨otherDefined, v, held, fun same => differs (Option.some.inj (same.symm.trans fits))⟩
    obtain ⟨answer, left⟩ := agrees.outcome_of_grounds clash
    have named : r.found k = v.kindName := by rw [found, held, Option.elim_some]
    have state : (r.register k other none false).state = { r with valid := false } := left
    rw [state]
    refine ⟨?_, fresh k, rfl, rfl⟩
    rw [← named]
    exact answer

end Registry

/-! ## Settings of a text -/

namespace Ini

/-- A value that INI text spells has a kind. -/
theorem IsIniValue.exists_kind? {v : Value} (h : IsIniValue True v) :
    ∃ kind, v.kind? = some kind := by
  cases h with
  | scalar isScalar => cases isScalar <;> exact ⟨_, rfl⟩
  | array isElement => exact ⟨_, rfl⟩

/-- Each setting of a text that is read has one kind in the registry over the text. -/
theorem settings_have_one_kind {text : String}
    (loaded : (Registry.ofSource (source text)).reply = .ok ()) {k : Key} {v : Value}
    (held : (Registry.ofSource (source text)).state.document.find? k = some v) :
    ∃ kind, (Registry.ofSource (source text)).state.HasOneKind k v kind := by
  obtain ⟨d, found⟩ := Registry.empty.reply_load_eq_ok_iff.1 loaded
  have state : (Registry.ofSource (source text)).state = .fresh d "ini-string" :=
    congrArg Outcome.state (Registry.load_eq_of_ok .empty found)
  rw [state] at held ⊢
  obtain ⟨kind, fits⟩ := ((isIniDocument_of_read found) k v held).2.2.exists_kind?
  exact ⟨kind, Registry.hasOneKind_of_fresh rfl rfl held fits⟩

/-- A text with a list of a numeral and a word. -/
def portsText : String := "[net]\nports = 80, web\n"

/-- The list can be declared as a string array only. -/
theorem settings_have_one_kind_ports :
    (Registry.ofSource (source portsText)).reply = .ok () ∧
    (Registry.ofSource (source portsText)).state.document.find? (.of "net" "ports") =
      some (.array [.integer 80, .text "web"]) ∧
    ∃ kind, (Registry.ofSource (source portsText)).state.HasOneKind (.of "net" "ports")
      (.array [.integer 80, .text "web"]) kind :=
  have loaded : (Registry.ofSource (source portsText)).reply = .ok () := rfl
  have held : (Registry.ofSource (source portsText)).state.document.find? (.of "net" "ports") =
      some (.array [.integer 80, .text "web"]) := rfl
  ⟨loaded, held, settings_have_one_kind loaded held⟩

end Ini

end TypedSettings
