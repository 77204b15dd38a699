import TypedSettings.Proofs.Registry.History

/-!
# Loading

A load goes one of three ways: no source is found at the path, the source gives no document, or it
gives one. In the first two the registry is as before and answers the fault that was met; in the
third nothing of it is left. So a load is all or nothing, and what a registry does after a load is
settled by the load.
-/

namespace TypedSettings
set_option autoImplicit false

namespace Registry

/-- The ways of a load, each with all that the load answers, leaves behind and reports. -/
inductive Loading (r : Registry) : Outcome Registry (Except Fault Unit) → Prop where
  /-- There is no source at the path. -/
  | lost (path : String) (fault : Fault) : Loading r ⟨.error fault, r, [.openFailed path fault]⟩
  /-- The source gives no document. -/
  | failed {s : Source} {fault : Fault} (broken : s.document = .error fault) :
      Loading r ⟨.error fault, r, s.events ++ [.loadFailed s.name fault]⟩
  /-- The source gives a document. -/
  | loaded {s : Source} {d : Document} (held : s.document = .ok d) :
      Loading r ⟨.ok (), fresh d s.name, s.events ++ [.loaded d.size s.name]⟩

variable (r : Registry)

theorem loadFile_eq_of_error {files : FileTree} {path : String} {fault : Fault}
    (lost : IniFile.sourceAt files path = .error fault) :
    r.loadFile files path = ⟨.error fault, r, [.openFailed path fault]⟩ := by
  rw [loadFile, lost]
  rfl

theorem loadFile_eq_of_ok {files : FileTree} {path : String} {s : Source}
    (found : IniFile.sourceAt files path = .ok s) : r.loadFile files path = r.load s := by
  rw [loadFile, found]
  rfl

theorem loading_load (s : Source) : Loading r (r.load s) := by
  cases document : s.document with
  | error fault =>
    rw [load_eq_of_error r document]
    exact .failed document
  | ok d =>
    rw [load_eq_of_ok r document]
    exact .loaded document

theorem loading_loadFile (files : FileTree) (path : String) :
    Loading r (r.loadFile files path) := by
  cases found : IniFile.sourceAt files path with
  | error fault =>
    rw [loadFile_eq_of_error r found]
    exact .lost path fault
  | ok s =>
    rw [loadFile_eq_of_ok r found]
    exact r.loading_load s

/-- A load that fails leaves the registry as it was. -/
theorem Loading.state_of_error {r : Registry} {o : Outcome Registry (Except Fault Unit)}
    (way : Loading r o) {fault : Fault} (failed : o.reply = .error fault) : o.state = r := by
  cases way with
  | lost path fault => rfl
  | failed broken => rfl
  | loaded held => cases failed

theorem reply_load_eq_error_iff {s : Source} {fault : Fault} :
    (r.load s).reply = .error fault ↔ s.document = .error fault := by
  cases document : s.document with
  | error other =>
    rw [load_eq_of_error r document]
    simp
  | ok d =>
    rw [load_eq_of_ok r document]
    simp

theorem reply_load_eq_ok_iff {s : Source} :
    (r.load s).reply = .ok () ↔ ∃ d, s.document = .ok d := by
  cases document : s.document with
  | error fault =>
    rw [load_eq_of_error r document]
    simp
  | ok d =>
    rw [load_eq_of_ok r document]
    simp

/-- A load that succeeds does the same to every registry. -/
theorem load_eq_load {s : Source} (loaded : (r.load s).reply = .ok ()) (other : Registry) :
    r.load s = other.load s := by
  obtain ⟨d, held⟩ := r.reply_load_eq_ok_iff.1 loaded
  rw [load_eq_of_ok r held, load_eq_of_ok other held]

end Registry

/-! ## Files -/

/-- Why the file at a path gives no document. -/
inductive NoDocument (files : FileTree) (path : String) : Fault → Prop where
  /-- The path leads nowhere. -/
  | unresolved {cause : FileFault} (lost : files.resolve path = .error cause) :
      NoDocument files path (.fileReadFailed path cause)
  /-- There is no text to be had: a directory, an unreadable file, a file that is too large or no
  UTF-8. -/
  | unread {names : List String} {cause : FileFault} (found : files.resolve path = .ok names)
      (unread : files.readText names = .error cause) :
      NoDocument files path (.fileReadFailed (FileTree.canonicalText names) cause)
  /-- The text is malformed. -/
  | malformed {names : List String} {text : String} {fault : Fault}
      (found : files.resolve path = .ok names) (read : files.readText names = .ok text)
      (malformed : Ini.read text = .error fault) : NoDocument files path fault

namespace Registry

variable (r : Registry) {files : FileTree} {path : String}

theorem sourceAt_of_resolve_error {cause : FileFault} (lost : files.resolve path = .error cause) :
    IniFile.sourceAt files path = .error (.fileReadFailed path cause) := by
  simp [IniFile.sourceAt, IniFile.openAt, lost, Except.map]

theorem sourceAt_of_resolve_ok {names : List String} (found : files.resolve path = .ok names) :
    IniFile.sourceAt files path =
      .ok (IniFile.sourceOf (FileTree.canonicalText names) (files.readText names)) := by
  simp [IniFile.sourceAt, IniFile.openAt, found, Except.map, IniFile.source, IniFile.path]

/-- A load of a file fails exactly for one of the reasons, and answers it. -/
theorem reply_loadFile_eq_error_iff {fault : Fault} :
    (r.loadFile files path).reply = .error fault ↔ NoDocument files path fault := by
  cases found : files.resolve path with
  | error cause =>
    rw [loadFile_eq_of_error r (sourceAt_of_resolve_error found)]
    constructor
    · rintro ⟨⟩
      exact .unresolved found
    · rintro (lost | ⟨other, -⟩ | ⟨other, -, -⟩)
      · rw [found] at lost
        cases lost
        rfl
      · rw [found] at other
        cases other
      · rw [found] at other
        cases other
  | ok names =>
    rw [loadFile_eq_of_ok r (sourceAt_of_resolve_ok found), reply_load_eq_error_iff]
    constructor
    · intro broken
      cases read : files.readText names with
      | error cause =>
        rw [read] at broken
        cases broken
        exact .unread found read
      | ok text =>
        rw [read] at broken
        exact .malformed found read broken
    · rintro (lost | ⟨other, unread⟩ | ⟨other, read, malformed⟩)
      · rw [found] at lost
        cases lost
      · rw [found] at other
        cases other
        rw [unread]
        rfl
      · rw [found] at other
        cases other
        rw [read]
        exact malformed

/-- A load of a file that succeeds is a load of the source at its path. -/
theorem loadFile_eq_load (loaded : (r.loadFile files path).reply = .ok ()) :
    ∃ s, IniFile.sourceAt files path = .ok s ∧ r.loadFile files path = r.load s := by
  cases found : IniFile.sourceAt files path with
  | error fault =>
    rw [loadFile_eq_of_error r found] at loaded
    cases loaded
  | ok s => exact ⟨s, rfl, loadFile_eq_of_ok r found⟩

theorem loadFile_eq_loadFile (loaded : (r.loadFile files path).reply = .ok ()) (other : Registry) :
    r.loadFile files path = other.loadFile files path := by
  obtain ⟨s, found, same⟩ := r.loadFile_eq_load loaded
  rw [same] at loaded
  rw [same, loadFile_eq_of_ok other found, r.load_eq_load loaded other]

end Registry

/-! ## Requests -/

variable {α : Type}

/-- The request is a load. -/
def Request.isLoad : Request α → Bool
  | .load _ | .loadFile .. => true
  | _ => false

namespace Registry

theorem state_step_of_load_error {r : Registry} {q : Request α} {fault : Fault}
    (load : q.isLoad = true) (failed : (r.step q).reply = .done (.error fault)) :
    (r.step q).state = r := by
  cases q with
  | load s => exact (r.loading_load s).state_of_error (Reply.done.inj failed)
  | loadFile files path =>
    exact (r.loading_loadFile files path).state_of_error (Reply.done.inj failed)
  | _ => cases load

/-- A load that succeeds has the same outcome on every registry. -/
theorem step_eq_step_of_load_ok {r : Registry} {q : Request α} (load : q.isLoad = true)
    (loaded : (r.step q).reply = .done (.ok ())) (other : Registry) : r.step q = other.step q := by
  cases q with
  | load source => rw [step, step, r.load_eq_load (Reply.done.inj loaded) other]
  | loadFile files path =>
    rw [step, step, r.loadFile_eq_loadFile (Reply.done.inj loaded) other]
  | _ => cases load

/-- What follows on a load that succeeds does not depend on what was before it. -/
theorem run_eq_run_of_load_ok {r : Registry} {q : Request α} (load : q.isLoad = true)
    (loaded : (r.step q).reply = .done (.ok ())) (other : Registry) (later : List (Request α)) :
    r.run (q :: later) = other.run (q :: later) := by
  rw [run, run, step_eq_step_of_load_ok load loaded other]

end Registry

namespace Origin

/-- Loading is all or nothing. A load fails exactly with the fault of its source, or with the reason
why a file gives no document, and then the registry is as before. A load that succeeds leaves the
registry that the same source makes from nothing, so whatever two registries went through before,
the same load and any later requests have the same answers, states and events on both. -/
theorem load_all_or_nothing (o : Origin) (past : List (Request α)) :
    (∀ s fault, ((o.after past).load s).reply = .error fault ↔ s.document = .error fault) ∧
    (∀ files path fault, ((o.after past).loadFile files path).reply = .error fault ↔
      NoDocument files path fault) ∧
    (∀ (q : Request α) fault, q.isLoad = true →
      ((o.after past).step q).reply = .done (.error fault) →
      ((o.after past).step q).state = o.after past) ∧
    (∀ s, ((o.after past).load s).reply = .ok () →
      (Registry.ofSource s).reply = .ok () ∧
      ((o.after past).load s).state = (Registry.ofSource s).state) ∧
    (∀ files path, ((o.after past).loadFile files path).reply = .ok () →
      ∃ s, IniFile.sourceAt files path = .ok s ∧ (Registry.ofSource s).reply = .ok () ∧
        ((o.after past).loadFile files path).state = (Registry.ofSource s).state) ∧
    ∀ (o' : Origin) (past' : List (Request α)) (q : Request α), q.isLoad = true →
      ((o.after past).step q).reply = .done (.ok ()) →
      ∀ later, (o.after past).run (q :: later) = (o'.after past').run (q :: later) := by
  generalize o.after past = r
  have fromNothing : ∀ s, (r.load s).reply = .ok () →
      (Registry.ofSource s).reply = .ok () ∧ (r.load s).state = (Registry.ofSource s).state := by
    intro s loaded
    have same : r.load s = Registry.ofSource s := r.load_eq_load loaded .empty
    exact ⟨same ▸ loaded, congrArg Outcome.state same⟩
  refine ⟨fun s fault => r.reply_load_eq_error_iff,
    fun files path fault => r.reply_loadFile_eq_error_iff,
    fun q fault load failed => Registry.state_step_of_load_error load failed, fromNothing, ?_, ?_⟩
  · intro files path loaded
    obtain ⟨s, found, same⟩ := r.loadFile_eq_load loaded
    rw [same] at loaded ⊢
    exact ⟨s, found, fromNothing s loaded⟩
  · intro o' past' q load loaded later
    exact Registry.run_eq_run_of_load_ok load loaded (o'.after past') later

end Origin

end TypedSettings
