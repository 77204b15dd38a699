import TypedSettings.Proofs.Files.Contents
import TypedSettings.Proofs.Ini.Parsing
import TypedSettings.Proofs.Registry.Loading

/-!
# Loading files as texts

A registry that loads a file does what it does when it loads the text of the file; only the name of
the source and the events tell the two apart. Without a text nothing changes. An opened file holds
nothing of what it read before: each load gives what is in the file at the time, whatever was
changed or loaded since the file was opened.
-/

namespace TypedSettings
set_option autoImplicit false

/-- A file was loaded as its text would have been: with the same answer, and with the same document,
declarations and validity afterwards. If the load succeeds the sources have their own names, and it
fails only because the text is malformed, and then changes nothing. -/
structure LoadedAsText (r : Registry) (file text : Outcome Registry (Except Fault Unit)) : Prop where
  reply_eq : file.reply = text.reply
  document_eq : file.state.document = text.state.document
  declarations_eq : file.state.declarations = text.state.declarations
  valid_eq : file.state.valid = text.state.valid
  source_of_ok : file.reply = .ok () →
    file.state.source = some "ini-file" ∧ text.state.source = some "ini-string"
  of_error : ∀ fault, file.reply = .error fault →
    (∃ message, fault = .parseFailed message) ∧ file.state = r ∧ text.state = r

/-- A load failed for want of a text, and changed nothing. -/
structure LoadedNothing (r : Registry) (cause : FileFault) (o : Outcome Registry (Except Fault Unit)) :
    Prop where
  reply_eq : ∃ path, o.reply = .error (.fileReadFailed path cause)
  state_eq : o.state = r

variable {r : Registry} {files : FileTree} {path : String} {f : IniFile} {cause : FileFault}

/-! ## One load -/

/-- A source that read a text of a file loads as the text does. -/
theorem loadedAsText_sourceOf (r : Registry) (path text : String) :
    LoadedAsText r (r.load (IniFile.sourceOf path (.ok text))) (r.load (Ini.source text)) := by
  have document : (IniFile.sourceOf path (.ok text)).document = Ini.read text := rfl
  have document' : (Ini.source text).document = Ini.read text := rfl
  cases result : Ini.read text with
  | ok d =>
    rw [r.load_eq_of_ok (document.trans result), r.load_eq_of_ok (document'.trans result)]
    exact ⟨rfl, rfl, rfl, rfl, fun _ => ⟨rfl, rfl⟩, nofun⟩
  | error fault =>
    obtain ⟨n, lineFault, -, reported⟩ := Ini.read_eq_error_iff.1 result
    rw [r.load_eq_of_error (document.trans result), r.load_eq_of_error (document'.trans result)]
    refine ⟨rfl, rfl, rfl, rfl, nofun, fun other failed => ⟨?_, rfl, rfl⟩⟩
    exact ⟨_, (Except.error.inj failed).symm.trans reported⟩

theorem loadedNothing_sourceOf (r : Registry) (path : String) (cause : FileFault) :
    LoadedNothing r cause (r.load (IniFile.sourceOf path (.error cause))) where
  reply_eq := ⟨path, rfl⟩
  state_eq := rfl

/-- Loading the file at a path is opening it and loading what was opened. -/
theorem Registry.loadFile_eq_load_of_openAt (r : Registry) (opened : IniFile.openAt files path = .ok f) :
    r.loadFile files path = r.load (f.source files) := by
  refine loadFile_eq_of_ok r ?_
  rw [IniFile.sourceAt, opened]
  rfl

theorem openAt_of_resolve_ok {names : List String} (resolved : files.resolve path = .ok names) :
    IniFile.openAt files path = .ok ⟨names⟩ := by
  rw [IniFile.openAt, resolved]

theorem openAt_of_resolve_error (lost : files.resolve path = .error cause) :
    IniFile.openAt files path = .error (.fileReadFailed path cause) := by
  rw [IniFile.openAt, lost]

/-- Where a path leads to a text, the file can be opened and loads as the text. -/
theorem loadedAsText_of_finds {text : String} (h : files.Finds (files.resolve path) (.ok text)) :
    ∃ f, IniFile.openAt files path = .ok f ∧ r.loadFile files path = r.load (f.source files) ∧
      LoadedAsText r (r.loadFile files path) (r.load (Ini.source text)) := by
  obtain ⟨names, resolved⟩ := h.exists_place
  have opened := openAt_of_resolve_ok resolved
  refine ⟨_, opened, r.loadFile_eq_load_of_openAt opened, ?_⟩
  rw [r.loadFile_eq_load_of_openAt opened, IniFile.source, h.readText_eq resolved]
  exact loadedAsText_sourceOf r _ text

/-- Where a path leads to no text, the file cannot be opened or cannot be loaded. -/
theorem loadedNothing_of_finds (h : files.Finds (files.resolve path) (.error cause)) :
    LoadedNothing r cause (r.loadFile files path) ∧
      (IniFile.openAt files path = .error (.fileReadFailed path cause) ∨
        ∃ f, IniFile.openAt files path = .ok f ∧
          r.loadFile files path = r.load (f.source files)) := by
  cases resolved : files.resolve path with
  | error other =>
    rw [resolved] at h
    obtain rfl : other = cause := by cases h; rfl
    refine ⟨?_, .inl (openAt_of_resolve_error resolved)⟩
    rw [r.loadFile_eq_of_error (Registry.sourceAt_of_resolve_error resolved)]
    exact ⟨⟨path, rfl⟩, rfl⟩
  | ok names =>
    have opened := openAt_of_resolve_ok resolved
    refine ⟨?_, .inr ⟨_, opened, r.loadFile_eq_load_of_openAt opened⟩⟩
    rw [r.loadFile_eq_load_of_openAt opened, IniFile.source, h.readText_eq resolved]
    exact loadedNothing_sourceOf r _ cause

/-! ## Loads between changes -/

/-- What happens while a file is open: the file tree is changed in some way, or the file is loaded.
-/
inductive FileStep where
  | change (next : FileTree → FileTree)
  | load

namespace FileStep

/-- The tree after a step. A load does not change it. -/
def apply : FileStep → FileTree → FileTree
  | change next, files => next files
  | load, files => files

end FileStep

/-- The tree after steps. -/
def treeAfter (files : FileTree) (steps : List FileStep) : FileTree :=
  steps.foldl (fun files step => step.apply files) files

namespace IniFile

/-- The outcomes of the loads among steps, one after the other. -/
def loads (f : IniFile) (files : FileTree) (r : Registry) :
    List FileStep → List (Outcome Registry (Except Fault Unit))
  | [] => []
  | .change next :: steps => f.loads (next files) r steps
  | .load :: steps => r.load (f.source files) :: f.loads files (r.load (f.source files)).state steps

/-- The registry after steps: what the last load among them left. -/
def registryAfter (f : IniFile) (files : FileTree) (r : Registry) (steps : List FileStep) : Registry :=
  ((f.loads files r steps).getLast?.map Outcome.state).getD r

theorem registryAfter_load (f : IniFile) (files : FileTree) (r : Registry) (steps : List FileStep) :
    f.registryAfter files r (.load :: steps) =
      f.registryAfter files (r.load (f.source files)).state steps := by
  rw [registryAfter, registryAfter, loads, List.getLast?_cons]
  cases (f.loads files (r.load (f.source files)).state steps).getLast? <;> rfl

/-- A load among steps is a load by the registry at the time of what the file is at the time. -/
theorem loads_append_load (f : IniFile) (files : FileTree) (r : Registry)
    (before after : List FileStep) :
    f.loads files r (before ++ .load :: after) =
      f.loads files r before ++
        (f.registryAfter files r before).load (f.source (treeAfter files before)) ::
          f.loads (treeAfter files before)
            ((f.registryAfter files r before).load (f.source (treeAfter files before))).state
            after := by
  induction before generalizing files r with
  | nil => rfl
  | cons step before ih =>
    cases step with
    | change next => exact ih (next files) r
    | load =>
      rw [List.cons_append, loads, loads, registryAfter_load, ih]
      rfl

/-- A load after steps, by the registry at the time and of what the file is at the time. -/
def loadAfter (f : IniFile) (files : FileTree) (r : Registry) (before : List FileStep) :
    Outcome Registry (Except Fault Unit) :=
  (f.registryAfter files r before).load (f.source (treeAfter files before))

/-- Where an opened file leads to a text now, it loads as the text. -/
theorem loadedAsText_source {text : String} (r : Registry)
    (h : files.Finds (files.locate [] f.names) (.ok text)) :
    LoadedAsText r (r.load (f.source files)) (r.load (Ini.source text)) := by
  have read : files.readText f.names = .ok text := h.read_eq
  rw [source, read]
  exact loadedAsText_sourceOf r f.path text

theorem loadedNothing_source (r : Registry)
    (h : files.Finds (files.locate [] f.names) (.error cause)) :
    LoadedNothing r cause (r.load (f.source files)) := by
  have read : files.readText f.names = .error cause := h.read_eq
  rw [source, read]
  exact loadedNothing_sourceOf r f.path cause

end IniFile

/-- Loads of equal sources have the same answer and events, and when they succeed they leave the
same registry. -/
theorem Registry.load_agrees (r s : Registry) (source : Source) :
    (r.load source).reply = (s.load source).reply ∧
      (r.load source).events = (s.load source).events ∧
      ((r.load source).reply = .ok () → (r.load source).state = (s.load source).state) := by
  cases document : source.document with
  | ok d =>
    rw [r.load_eq_of_ok document, s.load_eq_of_ok document]
    exact ⟨rfl, rfl, fun _ => rfl⟩
  | error fault =>
    rw [r.load_eq_of_error document, s.load_eq_of_error document]
    exact ⟨rfl, rfl, nofun⟩

/-- Loading a file is loading its text, and fails without change when there is none. Each path leads
to a text or to the reason why there is none. Among any changes of the file tree and other loads, a
load of an opened file does what the contents at the time say, and of two loads that find the same
contents neither the answers nor the registries after a success differ, whatever was before. -/
theorem file_loads_as_its_text :
    (∀ (files : FileTree) path, ∃ result, files.Finds (files.resolve path) result) ∧
    (∀ (r : Registry) (files : FileTree) path text, files.Finds (files.resolve path) (.ok text) →
      ∃ f, IniFile.openAt files path = .ok f ∧ r.loadFile files path = r.load (f.source files) ∧
        LoadedAsText r (r.loadFile files path) (r.load (Ini.source text))) ∧
    (∀ (r : Registry) (files : FileTree) path cause,
      files.Finds (files.resolve path) (.error cause) →
      LoadedNothing r cause (r.loadFile files path) ∧
        (IniFile.openAt files path = .error (.fileReadFailed path cause) ∨
          ∃ f, IniFile.openAt files path = .ok f ∧
            r.loadFile files path = r.load (f.source files))) ∧
    (∀ (f : IniFile) files r before after,
      f.loads files r (before ++ .load :: after) =
        f.loads files r before ++ f.loadAfter files r before ::
          f.loads (treeAfter files before) (f.loadAfter files r before).state after) ∧
    (∀ (files : FileTree) names, ∃ result, files.Finds (files.locate [] names) result) ∧
    (∀ (f : IniFile) files r before text,
      (treeAfter files before).Finds ((treeAfter files before).locate [] f.names) (.ok text) →
      LoadedAsText (f.registryAfter files r before) (f.loadAfter files r before)
        ((f.registryAfter files r before).load (Ini.source text))) ∧
    (∀ (f : IniFile) files r before cause,
      (treeAfter files before).Finds ((treeAfter files before).locate [] f.names) (.error cause) →
      LoadedNothing (f.registryAfter files r before) cause (f.loadAfter files r before)) ∧
    ∀ (f : IniFile) files files' r r' before before' result,
      (treeAfter files before).Finds ((treeAfter files before).locate [] f.names) result →
      (treeAfter files' before').Finds ((treeAfter files' before').locate [] f.names) result →
      (f.loadAfter files r before).reply = (f.loadAfter files' r' before').reply ∧
      (f.loadAfter files r before).events = (f.loadAfter files' r' before').events ∧
      ((f.loadAfter files r before).reply = .ok () →
        (f.loadAfter files r before).state = (f.loadAfter files' r' before').state) := by
  refine ⟨FileTree.exists_finds_resolve, fun _ _ _ _ => loadedAsText_of_finds,
    fun _ _ _ _ => loadedNothing_of_finds, IniFile.loads_append_load,
    fun files names => ⟨_, files.finds_readText names⟩,
    fun _ _ _ _ _ => IniFile.loadedAsText_source _,
    fun _ _ _ _ _ => IniFile.loadedNothing_source _, ?_⟩
  intro f files files' r r' before before' result here there
  have source : f.source (treeAfter files before) = f.source (treeAfter files' before') := by
    rw [IniFile.source, IniFile.source]
    exact congrArg _ (here.read_eq.trans there.read_eq.symm)
  rw [IniFile.loadAfter, IniFile.loadAfter, source]
  exact Registry.load_agrees _ _ _

/-- A directory with one file, and a link to this file. -/
def linkedTree : FileTree :=
  ⟨[("etc", .directory [("c.ini", .file "[a]\nx = 1\n".toUTF8 true)]),
    ("now.ini", .link "etc/c.ini")]⟩

/-- The file is loaded, the file is written anew, the file is removed. -/
def rewritten : List FileStep :=
  [.load, .change (·.write "/now.ini" "[b]\n".toUTF8), .change (·.remove "/etc/c.ini")]

/-- The file loads as its text through the link, the directory does not load. Once the file is open,
it loads as what was written last, and not at all after it was removed. -/
theorem file_loads_as_its_text_linked :
    LoadedAsText .empty (Registry.empty.loadFile linkedTree "/now.ini")
      (Registry.empty.load (Ini.source "[a]\nx = 1\n")) ∧
    LoadedNothing .empty (.system .isADirectory) (Registry.empty.loadFile linkedTree "/etc") ∧
    ∃ f : IniFile, IniFile.openAt linkedTree "/now.ini" = .ok f ∧
      LoadedAsText (f.registryAfter linkedTree .empty (rewritten.take 2))
        (f.loadAfter linkedTree .empty (rewritten.take 2))
        ((f.registryAfter linkedTree .empty (rewritten.take 2)).load (Ini.source "[b]\n")) ∧
      LoadedNothing (f.registryAfter linkedTree .empty rewritten) (.system .notFound)
        (f.loadAfter linkedTree .empty rewritten) := by
  have ⟨_, asText, nothing, _, _, textAfter, nothingAfter, _⟩ := file_loads_as_its_text
  have resolved : linkedTree.resolve "/now.ini" = .ok ["etc", "c.ini"] := by decide +kernel
  have throughLink : linkedTree.Finds (linkedTree.resolve "/now.ini") (.ok "[a]\nx = 1\n") := by
    rw [resolved]
    exact .text rfl (by decide +kernel) rfl
  have directory : linkedTree.Finds (linkedTree.resolve "/etc") (.error (.system .isADirectory)) := by
    have resolved : linkedTree.resolve "/etc" = .ok ["etc"] := by decide +kernel
    rw [resolved]
    exact .directory rfl
  obtain ⟨f, opened, -, loaded⟩ := asText .empty _ _ _ throughLink
  obtain rfl := Except.ok.inj ((openAt_of_resolve_ok resolved).symm.trans opened)
  refine ⟨loaded, (nothing .empty _ _ _ directory).1, _, opened, ?_, ?_⟩
  · have stays : (treeAfter linkedTree (rewritten.take 2)).locate [] ["etc", "c.ini"] =
        .ok ["etc", "c.ini"] := by decide +kernel
    apply textAfter
    rw [stays]
    exact .text rfl (by decide +kernel) rfl
  · have stays : (treeAfter linkedTree rewritten).locate [] ["etc", "c.ini"] =
        .ok ["etc", "c.ini"] := by decide +kernel
    apply nothingAfter
    rw [stays]
    exact .missing rfl

end TypedSettings
