import Mathlib.Data.List.DropRight
import TypedSettings.Shared
import TypedSettings.Proofs.Registry.Loading

/-!
# The shared registry and its one owner

Instead of sharing a registry, a program could own one and pass it around. The shared registry is
such a registry, no more: after a reset it is what the owner makes by the first loading that
succeeds, and from then on every call does to it what the owner does with the method of the same
name. Before that the calls that need a registry are refused, and after it the calls that would set
one up, so there is at most one registry between two resets.
-/

namespace TypedSettings
set_option autoImplicit false

namespace Shared

variable {α : Type}

/-! ## What the owner does -/

namespace Call

/-- The call drops the registry. -/
def isReset : Call α → Bool
  | .reset => true
  | _ => false

/-- How the owner makes the registry that the call sets up: a new one loads the source or the file. -/
def opening? : Call α → Option (Outcome Registry (Except Fault Unit))
  | .init source => some (Registry.ofSource source)
  | .initFile files path => some (Registry.empty.loadFile files path)
  | _ => none

/-- The registry that the owner has then, unless the loading failed. -/
def opened? (c : Call α) : Option Registry :=
  c.opening?.bind fun opening => match opening.reply with
    | .ok () => some opening.state
    | .error _ => none

/-- What the owner does with the registry where the call uses the shared one. -/
def deed? : Call α → Option (Registry → Outcome Registry (Except Fault (Reply α)))
  | .declare declaration =>
    some fun r => (r.declare declaration).mapReply (Except.map fun _ => .done (.ok ()))
  | .get group item reader =>
    some fun r => .answer ((r.get reader (.of group item)).map fun data => .data (.ok data)) r
  | .use request => some fun r => (r.step request).mapReply .ok
  | .visit f => some fun r => (f r).mapReply fun data => .ok (.data (.ok data))
  | _ => none

/-- The registry of the owner after a call. -/
def after (r : Registry) (c : Call α) : Registry := c.deed?.elim r fun deed => (deed r).state

end Call

/-- The calls since the last reset. -/
def sinceReset (cs : List (Call α)) : List (Call α) := cs.rtakeWhile fun c => !c.isReset

/-- The registry of an owner who makes one as soon as a loading succeeds, and then keeps to it. -/
def settled? : List (Call α) → Option Registry
  | [] => none
  | c :: cs => match c.opened? with
    | some r => some (cs.foldl Call.after r)
    | none => settled? cs

/-- The registry of an owner who starts anew with every reset. -/
def owned? (cs : List (Call α)) : Option Registry := settled? (sinceReset cs)

/-! ## One registry between two resets -/

theorem settled?_eq_none_iff {cs : List (Call α)} :
    settled? cs = none ↔ ∀ c ∈ cs, c.opened? = none := by
  induction cs with
  | nil => simp [settled?]
  | cons c cs ih =>
    cases made : c.opened? with
    | none => simp [settled?, made, ih]
    | some r => simp [settled?, made]

theorem settled?_append_of_failing {failing : List (Call α)}
    (fails : ∀ c ∈ failing, c.opened? = none) (cs : List (Call α)) :
    settled? (failing ++ cs) = settled? cs := by
  induction failing with
  | nil => rfl
  | cons c failing ih =>
    have made : c.opened? = none := fails c List.mem_cons_self
    rw [List.cons_append, settled?, made]
    exact ih fun d mem => fails d (List.mem_cons_of_mem c mem)

theorem settled?_eq_some_iff {cs : List (Call α)} {r : Registry} :
    settled? cs = some r ↔ ∃ failing first later start, cs = failing ++ first :: later ∧
      (∀ c ∈ failing, c.opened? = none) ∧ first.opened? = some start ∧
      later.foldl Call.after start = r := by
  constructor
  · intro settled
    induction cs with
    | nil => cases settled
    | cons c cs ih =>
      cases made : c.opened? with
      | some start =>
        rw [settled?, made] at settled
        exact ⟨[], c, cs, start, rfl, by simp, made, Option.some.inj settled⟩
      | none =>
        rw [settled?, made] at settled
        obtain ⟨failing, first, later, start, rfl, fails, first_made, rest⟩ := ih settled
        refine ⟨c :: failing, first, later, start, rfl, ?_, first_made, rest⟩
        rintro d (_ | ⟨_, mem⟩)
        · exact made
        · exact fails d mem
  · rintro ⟨failing, first, later, start, rfl, fails, made, rfl⟩
    rw [settled?_append_of_failing fails, settled?, made]

/-- One more call either makes the registry or works on the one there is. -/
theorem settled?_concat (cs : List (Call α)) (c : Call α) :
    settled? (cs ++ [c]) = match settled? cs with
      | none => c.opened?
      | some r => some (Call.after r c) := by
  induction cs with
  | nil => cases made : c.opened? <;> simp [settled?, made]
  | cons d cs ih =>
    cases made : d.opened? with
    | none => simpa [settled?, made] using ih
    | some r => simp [settled?, made]

theorem owned?_concat_of_reset {c : Call α} (reset : c.isReset = true) (cs : List (Call α)) :
    owned? (cs ++ [c]) = none := by
  simp [owned?, sinceReset, reset, settled?]

theorem owned?_concat_of_kept {c : Call α} (kept : c.isReset = false) (cs : List (Call α)) :
    owned? (cs ++ [c]) = match owned? cs with
      | none => c.opened?
      | some r => some (Call.after r c) := by
  have longer : sinceReset (cs ++ [c]) = sinceReset cs ++ [c] := by simp [sinceReset, kept]
  rw [owned?, longer, settled?_concat, owned?]

/-! ## What a call does -/

/-- The shared registry is not set up: it is asked and used in vain, and set up as its owner would
set it up. -/
structure Closed (α : Type) (s : Shared) : Prop where
  isInitialized : s.step (.isInitialized : Call α) = .answer (.ok (.truth false)) s
  isValid : s.step (.isValid : Call α) = .answer (.ok (.truth false)) s
  refused : ∀ (c : Call α) deed, c.deed? = some deed →
    s.step c = .answer (.error .notInitialized) s
  opens : ∀ (c : Call α) opening, c.opening? = some opening → opening.reply = .ok () →
    s.step c = ⟨.ok (.done (.ok ())), ⟨some opening.state⟩, opening.events⟩
  fails : ∀ (c : Call α) opening fault, c.opening? = some opening →
    opening.reply = .error fault → s.step c = ⟨.error fault, s, opening.events⟩

/-- The shared registry is the registry `r` of an owner: it is used as the owner uses it, and not
set up again. -/
structure Open (α : Type) (s : Shared) (r : Registry) : Prop where
  isInitialized : s.step (.isInitialized : Call α) = .answer (.ok (.truth true)) s
  isValid : s.step (.isValid : Call α) = .answer (.ok (.truth r.valid)) s
  used : ∀ (c : Call α) deed, c.deed? = some deed →
    s.step c = (deed r).mapState fun next => ⟨some next⟩
  refused : ∀ (c : Call α) opening, c.opening? = some opening →
    s.step c = .answer (.error .alreadyInitialized) s

theorem closed_empty : Closed α empty where
  isInitialized := by rw [step, isInitialized_empty]
  isValid := by rw [step, isValid_empty]
  refused c deed used := by
    cases c with
    | declare declaration =>
      rw [step, declare, use_none]
      rfl
    | get group item reader => rfl
    | use request => rw [step, use_none]
    | visit f =>
      rw [step, use_none]
      rfl
    | init | initFile | reset | isInitialized | isValid => cases used
  opens c opening opens loaded := by
    cases c with
    | init source =>
      cases opens
      rw [step, init, initBy_empty_of_ok loaded]
      rfl
    | initFile files path =>
      cases opens
      rw [step, initFile, initBy_empty_of_ok loaded]
      rfl
    | reset | isInitialized | isValid | declare | get | use | visit => cases opens
  fails c opening fault opens failed := by
    cases c with
    | init source =>
      cases opens
      rw [step, init, initBy_empty_of_error failed]
      rfl
    | initFile files path =>
      cases opens
      rw [step, initFile, initBy_empty_of_error failed]
      rfl
    | reset | isInitialized | isValid | declare | get | use | visit => cases opens

theorem open_some (r : Registry) : Open α ⟨some r⟩ r where
  isInitialized := rfl
  isValid := rfl
  used c deed used := by
    cases c with
    | declare declaration =>
      cases used
      rw [step, declare, use_some]
      rfl
    | get group item reader =>
      cases used
      rfl
    | use request =>
      cases used
      rw [step, use_some]
      rfl
    | visit f =>
      cases used
      rw [step, use_some]
      rfl
    | init | initFile | reset | isInitialized | isValid => cases used
  refused c opening opens := by
    cases c with
    | init source =>
      rw [step, init, initBy_some]
      rfl
    | initFile files path =>
      rw [step, initFile, initBy_some]
      rfl
    | reset | isInitialized | isValid | declare | get | use | visit => cases opens

theorem Call.opened?_of_error {c : Call α} {opening : Outcome Registry (Except Fault Unit)}
    {fault : Fault} (opens : c.opening? = some opening) (failed : opening.reply = .error fault) :
    c.opened? = none := by
  rw [opened?, opens, Option.bind_some, failed]

theorem Call.opened?_of_ok {c : Call α} {opening : Outcome Registry (Except Fault Unit)}
    (opens : c.opening? = some opening) (loaded : opening.reply = .ok ()) :
    c.opened? = some opening.state := by
  rw [opened?, opens, Option.bind_some, loaded]

theorem state_step_empty (c : Call α) : (empty.step c).state = ⟨c.opened?⟩ := by
  cases opens : c.opening? with
  | none =>
    have made : c.opened? = none := by rw [Call.opened?, opens, Option.bind_none]
    rw [made]
    cases c with
    | init | initFile => cases opens
    | reset | isInitialized | isValid | declare | get | use | visit => rfl
  | some opening =>
    cases reply : opening.reply with
    | error fault =>
      rw [closed_empty.fails c opening fault opens reply, Call.opened?_of_error opens reply]
      rfl
    | ok =>
      rw [closed_empty.opens c opening opens reply, Call.opened?_of_ok opens reply]

theorem state_step_some {c : Call α} (kept : c.isReset = false) (r : Registry) :
    (Shared.step ⟨some r⟩ c).state = ⟨some (Call.after r c)⟩ := by
  cases c with
  | reset => cases kept
  | init | initFile | isInitialized | isValid | declare | get | use | visit => rfl

/-! ## Runs -/

/-- After a reset the shared registry is the one that the owner has. -/
theorem state_run_reset (s : Shared) (past : List (Call α)) :
    (s.run (.reset :: past)).state = ⟨owned? past⟩ := by
  induction past using List.reverseRecOn with
  | nil => rfl
  | append_singleton past c ih =>
    have last : (s.run (.reset :: (past ++ [c]))).state = (Shared.step ⟨owned? past⟩ c).state := by
      rw [← List.cons_append, state_run_append, ih]
      rfl
    rw [last]
    cases reset : c.isReset with
    | true =>
      rw [owned?_concat_of_reset reset]
      cases c with
      | reset => rfl
      | _ => cases reset
    | false =>
      rw [owned?_concat_of_kept reset]
      cases owned? past with
      | none => exact state_step_empty c
      | some r => exact state_step_some reset r

/-- Between two resets the shared registry is one registry of one owner, who makes it by the first
loading that succeeds. Until then whatever needs a registry is refused and a loading that fails
changes nothing; from then on whatever would set one up is refused without an effect, and every
other call has the answer, the effect and the events of what the owner does. -/
theorem owned_between_resets (s : Shared) (past : List (Call α)) :
    (s.run (.reset :: past)).state.registry? = owned? past ∧
    (owned? past = none ↔ ∀ c ∈ sinceReset past, c.opened? = none) ∧
    (∀ r, owned? past = some r ↔ ∃ failing first later start,
      sinceReset past = failing ++ first :: later ∧ (∀ c ∈ failing, c.opened? = none) ∧
      first.opened? = some start ∧ later.foldl Call.after start = r) ∧
    (owned? past = none → (s.run (.reset :: past)).state.Closed α) ∧
    ∀ r, owned? past = some r → (s.run (.reset :: past)).state.Open α r := by
  rw [state_run_reset]
  refine ⟨rfl, settled?_eq_none_iff, fun r => settled?_eq_some_iff, ?_, ?_⟩
  · intro unowned
    rw [unowned]
    exact closed_empty
  · intro r owned
    rw [owned]
    exact open_some r

/-! ## What the registry can be -/

/-- The request that the owner makes in the place of a call. -/
def Call.request? : Call α → Option (Request α)
  | .declare d => some (.declare d)
  | .get group item reader => some (.get group item reader)
  | .use request => some request
  | _ => none

/-- The call hands the registry to a program of its own. -/
def Call.isVisit : Call α → Bool
  | .visit _ => true
  | _ => false

theorem Call.after_eq_step {c : Call α} {q : Request α} (request : c.request? = some q)
    (r : Registry) : Call.after r c = (r.step q).state := by
  cases c with
  | declare | get | use =>
    cases request
    rfl
  | _ => cases request

theorem Call.after_eq_self {c : Call α} (none_made : c.request? = none) (calm : c.isVisit = false)
    (r : Registry) : Call.after r c = r := by
  cases c with
  | visit => cases calm
  | init | initFile | reset | isInitialized | isValid => rfl
  | declare | get | use => cases none_made

theorem foldl_after {cs : List (Call α)} (calm : ∀ c ∈ cs, c.isVisit = false) (r : Registry) :
    cs.foldl Call.after r = (r.run (cs.filterMap Call.request?)).state := by
  induction cs generalizing r with
  | nil => rfl
  | cons c cs ih =>
    have rest := ih fun d mem => calm d (List.mem_cons_of_mem c mem)
    rw [List.foldl_cons, rest]
    cases request : c.request? with
    | none =>
      rw [List.filterMap_cons_none request, Call.after_eq_self request (calm c List.mem_cons_self)]
    | some q =>
      rw [List.filterMap_cons_some request, Call.after_eq_step request]
      rfl

theorem Call.exists_origin {c : Call α} {r : Registry} (made : c.opened? = some r) :
    ∃ o : Origin, o.registry = r := by
  obtain ⟨opening, opens, loaded, rfl⟩ : ∃ opening, c.opening? = some opening ∧
      opening.reply = .ok () ∧ opening.state = r := by
    obtain ⟨opening, opens, made⟩ := Option.bind_eq_some_iff.1 made
    cases reply : opening.reply with
    | error fault =>
      rw [reply] at made
      cases made
    | ok =>
      rw [reply] at made
      exact ⟨opening, opens, reply, Option.some.inj made⟩
  cases c with
  | init source =>
    cases opens
    exact ⟨.source source loaded, rfl⟩
  | initFile files path =>
    cases opens
    obtain ⟨source, -, same⟩ := Registry.empty.loadFile_eq_load loaded
    rw [same] at loaded ⊢
    exact ⟨.source source loaded, rfl⟩
  | _ => cases opens

/-- As long as nobody hands the shared registry to a program of its own, it is one that requests
lead to, so what holds of all of these holds of it. -/
theorem owned?_eq_after {past : List (Call α)}
    (calm : ∀ c ∈ sinceReset past, c.isVisit = false) {r : Registry} (owned : owned? past = some r) :
    ∃ (o : Origin) (qs : List (Request α)), o.after qs = r := by
  obtain ⟨failing, first, later, start, since, -, made, rfl⟩ := settled?_eq_some_iff.1 owned
  obtain ⟨o, rfl⟩ := Call.exists_origin made
  have calm_later : ∀ c ∈ later, c.isVisit = false := by
    intro c mem
    apply calm
    rw [since]
    exact List.mem_append_right failing (List.mem_cons_of_mem first mem)
  exact ⟨o, later.filterMap Call.request?, (foldl_after calm_later o.registry).symm⟩

end Shared

end TypedSettings
