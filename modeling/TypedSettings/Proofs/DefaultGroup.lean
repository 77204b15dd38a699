import Mathlib.Data.List.Forall2
import TypedSettings.Registry.Program
import TypedSettings.Shared

/-!
# The empty group name

The empty group name and the name of the default group cannot be told apart. A program is respelled
by writing one for the other in some of its calls. Each call forms its key before it does anything
else, and the key is the same under both names, so by induction on the calls all answers, states and
events are the same.
-/

namespace TypedSettings
set_option autoImplicit false

variable {α β : Type}

/-! ## Names of one group -/

/-- The same name, or the empty name and that of the default group. -/
def SameGroup (g h : String) : Prop :=
  g = h ∨ (g = "" ∧ h = "DEFAULT") ∨ (g = "DEFAULT" ∧ h = "")

/-- A change of spelling, name by name. -/
def Respells (f : String → String) : Prop := ∀ g, SameGroup g (f g)

/-- The group that the name is normalised to. -/
def normalGroup (g : String) : String := if g = "" then "DEFAULT" else g

theorem group_of_eq_iff {g h : String} : Group.of g = Group.of h ↔ normalGroup g = normalGroup h :=
  Group.of_eq_of_iff

theorem SameGroup.of_eq {g h : String} (same : SameGroup g h) : Group.of h = Group.of g := by
  rcases same with rfl | ⟨rfl, rfl⟩ | ⟨rfl, rfl⟩ <;> rfl

variable {f : String → String}

theorem Respells.group_eq (h : Respells f) (g : String) : Group.of (f g) = Group.of g := (h g).of_eq

theorem Respells.key_eq (h : Respells f) (g item : String) : Key.of (f g) item = Key.of g item := by
  rw [Key.of, h.group_eq]
  rfl

/-- Keys are one entry of documents when what is stored under the one is found under the other. -/
theorem Key.eq_iff_document {k l : Key} :
    k = l ↔ ∀ (d : Document) (v : Value), (d.set k v).find? l = some v := by
  constructor
  · rintro rfl d v
    exact d.find?_set_self k v
  · intro found
    by_contra different
    have stored := found .empty (.boolean true)
    rw [Document.find?_set_of_ne _ _ (Ne.symm different), Document.find?_empty] at stored
    cases stored

/-- Keys are one entry of declarations when what is declared under the one is declared under the
other. -/
theorem Key.eq_iff_declarations {k l : Key} :
    k = l ↔ ∀ (ds es : Declarations) (kind : Kind),
      ds.declare? k kind = some es → es.kindOf l = kind := by
  constructor
  · rintro rfl ds es kind declared
    rw [Declarations.kindOf_of_declare? declared, if_pos rfl]
  · intro declared
    by_contra different
    have fresh : Declarations.empty.declare? k .string = some ⟨OrderedMap.empty.insert k .string⟩ :=
      Declarations.declare?_of_fresh rfl rfl
    have string := declared _ _ _ fresh
    rw [Declarations.kindOf_of_declare? fresh, if_neg (Ne.symm different)] at string
    cases string

/-! ## Respelled calls -/

/-- The placement with its group respelled. -/
def Placement.regroup (f : String → String) (p : Placement) : Placement :=
  { p with group := f p.group }

/-- The declaration with its group respelled. -/
def Declaration.regroup (f : String → String) (d : Declaration) : Declaration :=
  { d with group := f d.group }

/-- The request with its group respelled, if it names one. -/
def Request.regroup (f : String → String) : Request α → Request α
  | register group item kind default? required => register (f group) item kind default? required
  | declare d => declare (d.regroup f)
  | get group item reader => get (f group) item reader
  | getOrZero group item reader => getOrZero (f group) item reader
  | accepts group item kind => accepts (f group) item kind
  | isRegistered group item => isRegistered (f group) item
  | registeredKind group item => registeredKind (f group) item
  | valueAt group item => valueAt (f group) item
  | load source => load source
  | loadFile files path => loadFile files path
  | document => document
  | declarations => declarations

/-- The act with its group respelled, if it names one. -/
def Act.regroup (f : String → String) : Act α → Act α
  | request q => request (q.regroup f)
  | holds group item => holds (f group) item
  | holdsGroup group => holdsGroup (f group)
  | items group => items (f group)

/-- The call with its group respelled, if it names one. -/
def Shared.Call.regroup (f : String → String) : Shared.Call α → Shared.Call α
  | declare d => declare (d.regroup f)
  | get group item reader => get (f group) item reader
  | use q => use (q.regroup f)
  | init source => init source
  | initFile files path => initFile files path
  | reset => reset
  | isInitialized => isInitialized
  | isValid => isValid
  | visit g => visit g

/-- The second placement is the first one respelled. -/
def Placement.Alike (p q : Placement) : Prop := ∃ f, Respells f ∧ q = p.regroup f

/-- The second act is the first one respelled. -/
def Act.Alike (a b : Act α) : Prop := ∃ f, Respells f ∧ b = a.regroup f

/-- The second program is the first one with some of its acts respelled, after any answers. -/
inductive Program.Alike : Program α β → Program α β → Prop where
  | done (result : β) : Alike (.done result) (.done result)
  | act {a b : Act α} {next others : Answer α → Program α β} (first : a.Alike b)
      (later : ∀ answer, Alike (next answer) (others answer)) : Alike (.act a next) (.act b others)

/-- The second call is the first one respelled. A visit is respelled in the acts of its program. -/
inductive Shared.Call.Alike : Shared.Call α → Shared.Call α → Prop where
  | regrouped {f : String → String} (respells : Respells f) (c : Shared.Call α) :
      Alike c (c.regroup f)
  | visit {β : Type} {p q : Program β α} (programs : p.Alike q) :
      Alike (.visit p.exec) (.visit q.exec)

/-! ## One call -/

theorem Placement.Alike.place_eq {p q : Placement} (h : p.Alike q) (d : Document) :
    d.place q = d.place p := by
  obtain ⟨f, respells, rfl⟩ := h
  rw [Document.place, Document.place, Placement.regroup, respells.key_eq]

namespace Registry

theorem declare_regroup (respells : Respells f) (r : Registry) (d : Declaration) :
    r.declare (d.regroup f) = r.declare d := by
  rw [declare_eq_register, declare_eq_register, Declaration.key, Declaration.key,
    Declaration.regroup, respells.key_eq]

theorem step_regroup (respells : Respells f) (r : Registry) (q : Request α) :
    r.step (q.regroup f) = r.step q := by
  cases q with
  | load source => rfl
  | loadFile files path => rfl
  | document => rfl
  | declarations => rfl
  | register group item kind default? required =>
    rw [Request.regroup, step, step, respells.key_eq]
  | declare d => rw [Request.regroup, step, step, declare_regroup respells]
  | get group item reader => rw [Request.regroup, step, step, respells.key_eq]
  | getOrZero group item reader => rw [Request.regroup, step, step, respells.key_eq]
  | accepts group item kind => rw [Request.regroup, step, step, respells.key_eq]
  | isRegistered group item => rw [Request.regroup, step, step, respells.key_eq]
  | registeredKind group item => rw [Request.regroup, step, step, respells.key_eq]
  | valueAt group item => rw [Request.regroup, step, step, respells.key_eq]

theorem act_regroup (respells : Respells f) (r : Registry) (a : Act α) :
    r.act (a.regroup f) = r.act a := by
  cases a with
  | request q => rw [Act.regroup, act, act, step_regroup respells]
  | holds group item => rw [Act.regroup, act, act, respells.key_eq]
  | holdsGroup group => rw [Act.regroup, act, act, respells.group_eq]
  | items group => rw [Act.regroup, act, act, respells.group_eq]

end Registry

theorem Act.Alike.act_eq {a b : Act α} (h : a.Alike b) (r : Registry) : r.act b = r.act a := by
  obtain ⟨f, respells, rfl⟩ := h
  exact Registry.act_regroup respells r a

/-- A program and the one respelled have one course: the answers to their first acts are equal, and
so they go on alike. -/
theorem Program.Alike.exec_eq {p q : Program α β} (h : p.Alike q) (r : Registry) :
    q.exec r = p.exec r := by
  induction h generalizing r with
  | done result => rfl
  | act first later ih =>
    rw [exec, exec, first.act_eq]
    rw [ih]

namespace Shared

theorem step_regroup (respells : Respells f) (s : Shared) (c : Call α) :
    s.step (c.regroup f) = s.step c := by
  cases c with
  | declare d =>
    have same : (fun r : Registry => r.declare (d.regroup f)) = fun r => r.declare d :=
      funext fun r => Registry.declare_regroup respells r d
    rw [Call.regroup, step, step, declare, declare, same]
  | get group item reader => rw [Call.regroup, step, step, respells.key_eq]
  | use q =>
    have same : (fun r : Registry => r.step (q.regroup f)) = fun r => r.step q :=
      funext fun r => Registry.step_regroup respells r q
    rw [Call.regroup, step, step, same]
  | init source => rfl
  | initFile files path => rfl
  | reset => rfl
  | isInitialized => rfl
  | isValid => rfl
  | visit g => rfl

theorem Call.Alike.step_eq {c d : Call α} (h : c.Alike d) (s : Shared) : s.step d = s.step c := by
  cases h with
  | regrouped respells c => exact step_regroup respells s c
  | visit programs => rw [funext programs.exec_eq]

end Shared

/-! ## Whole runs -/

theorem placeEach_eq {ps qs : List Placement} (h : List.Forall₂ Placement.Alike ps qs)
    (d : Document) : d.placeEach qs = d.placeEach ps := by
  induction h generalizing d with
  | nil => rfl
  | cons first _ ih =>
    rw [Document.placeEach, Document.placeEach, first.place_eq]
    rw [ih]

theorem perform_eq {as bs : List (Act α)} (h : List.Forall₂ Act.Alike as bs) (r : Registry) :
    r.perform bs = r.perform as := by
  induction h generalizing r with
  | nil => rfl
  | cons first _ ih =>
    rw [Registry.perform, Registry.perform, first.act_eq]
    rw [ih]

theorem session_eq {ps qs : List Placement} {as bs : List (Act α)}
    (placed : List.Forall₂ Placement.Alike ps qs) (acted : List.Forall₂ Act.Alike as bs) :
    Registry.session qs bs = Registry.session ps as := by
  rw [Registry.session, Registry.session, placeEach_eq placed]
  rw [perform_eq acted]

theorem shared_run_eq {cs ds : List (Shared.Call α)} (h : List.Forall₂ Shared.Call.Alike cs ds)
    (s : Shared) : s.run ds = s.run cs := by
  induction h generalizing s with
  | nil => rfl
  | cons first _ ih =>
    rw [Shared.run, Shared.run, first.step_eq]
    rw [ih]

/-- The empty group name and `DEFAULT` are indistinguishable. Writing one for the other in any of
the calls changes no answer, no state and no event of a session over a document that the program
made, of acts on any registry, and of calls on the shared registry. Two pairs of names form one key
when the items are the same and the groups are the same up to these two names; exactly then
documents and declarations keep one entry for them. To normalise once more changes nothing. -/
theorem empty_group_name_is_indistinguishable :
    (∀ (ps qs : List Placement) (as bs : List (Act α)), List.Forall₂ Placement.Alike ps qs →
      List.Forall₂ Act.Alike as bs → Registry.session qs bs = Registry.session ps as) ∧
    (∀ (r : Registry) (as bs : List (Act α)), List.Forall₂ Act.Alike as bs →
      r.perform bs = r.perform as) ∧
    (∀ (s : Shared) (cs ds : List (Shared.Call α)), List.Forall₂ Shared.Call.Alike cs ds →
      s.run ds = s.run cs) ∧
    ∀ g h i j : String,
      Key.of (Key.of g i).group.name (Key.of g i).item = Key.of g i ∧
      (Key.of g i = Key.of h j ↔ i = j ∧ normalGroup g = normalGroup h) ∧
      (Key.of g i = Key.of h j ↔
        ∀ (d : Document) (v : Value), (d.place ⟨g, i, v⟩).2.find? (.of h j) = some v) ∧
      (Key.of g i = Key.of h j ↔ ∀ (ds es : Declarations) (kind : Kind),
        ds.declare? (.of g i) kind = some es → es.kindOf (.of h j) = kind) := by
  refine ⟨fun ps qs as bs => session_eq, fun r as bs alike => perform_eq alike r,
    fun s cs ds alike => shared_run_eq alike s, fun g h i j => ⟨?_, ?_, ?_, ?_⟩⟩
  · exact Key.of_group_item (.of g i)
  · rw [Key.of_eq_of_iff, group_of_eq_iff]
  · exact Key.eq_iff_document
  · exact Key.eq_iff_declarations

end TypedSettings
