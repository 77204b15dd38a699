import TypedSettings.Proofs.Files.Loading
import TypedSettings.Proofs.Ini.RoundTrip
import TypedSettings.Proofs.StartUp.Protocol
import TypedSettings.Proofs.StartUp.Shown

/-!
# What the program writes

The program gets through exactly with a file whose document suits it: each of the five settings is
absent or has a value of its kind, and the name of the server is not empty. It then shows the values
of the file, and its defaults where the file has none. With any other file it shows no value. It
ends with the code 1 and says either why there is no document or that the configuration is invalid,
and in the second case the log has a line for each setting at fault.
-/

namespace TypedSettings.StartUp
set_option autoImplicit false

/-! ## Files -/

/-- The file at a path has a text that is read as a document. -/
def HoldsDocument (files : FileTree) (path : String) (document : Document) : Prop :=
  ∃ text, files.Finds (files.resolve path) (.ok text) ∧ Ini.read text = .ok document

variable {files : FileTree} {path : String} {document : Document} {fault : Fault}

/-- A path leads to a document, or there is a reason why not. -/
theorem exists_document_or_fault (files : FileTree) (path : String) :
    (∃ document, HoldsDocument files path document) ∨ ∃ fault, NoDocument files path fault := by
  obtain ⟨result, finds⟩ := files.exists_finds_resolve path
  cases result with
  | error cause =>
    obtain ⟨⟨⟨place, failed⟩, -⟩, -⟩ := loadedNothing_of_finds (r := .empty) finds
    exact .inr ⟨_, Registry.empty.reply_loadFile_eq_error_iff.1 failed⟩
  | ok text =>
    cases read : Ini.read text with
    | ok document => exact .inl ⟨document, text, finds, read⟩
    | error fault =>
      obtain ⟨names, resolved⟩ := finds.exists_place
      exact .inr ⟨fault, .malformed resolved (finds.readText_eq resolved) read⟩

/-- A file with a document is loaded, and the loading is reported after the reading. -/
theorem loadFile_of_document (holds : HoldsDocument files path document) :
    ∃ size place, Registry.empty.loadFile files path =
      ⟨.ok (), .fresh document "ini-file",
        [.fileRead size place, .loaded document.size "ini-file"]⟩ := by
  obtain ⟨text, finds, read⟩ := holds
  obtain ⟨names, resolved⟩ := finds.exists_place
  refine ⟨text.utf8ByteSize, FileTree.canonicalText names, ?_⟩
  rw [Registry.empty.loadFile_eq_of_ok (Registry.sourceAt_of_resolve_ok resolved),
    finds.readText_eq resolved]
  exact Registry.load_eq_of_ok .empty read

/-- Without a document the loading fails for the reason there is, and reports it last. -/
theorem loadFile_of_fault (noDocument : NoDocument files path fault) :
    ∃ reading event, (∀ e ∈ reading, e.level = .debug) ∧
      (event = .openFailed path fault ∨ event = .loadFailed "ini-file" fault) ∧
      Registry.empty.loadFile files path = ⟨.error fault, .empty, reading ++ [event]⟩ := by
  cases noDocument with
  | @unresolved cause lost =>
    refine ⟨[], _, fun _ none => absurd none List.not_mem_nil, .inl rfl, ?_⟩
    rw [Registry.empty.loadFile_eq_of_error (Registry.sourceAt_of_resolve_error lost)]
    rfl
  | @unread names cause found unread =>
    refine ⟨[], _, fun _ none => absurd none List.not_mem_nil, .inr rfl, ?_⟩
    rw [Registry.empty.loadFile_eq_of_ok (Registry.sourceAt_of_resolve_ok found), unread]
    rfl
  | @malformed names text fault found read malformed =>
    refine ⟨[.fileRead text.utf8ByteSize (FileTree.canonicalText names)], _, ?_, .inr rfl, ?_⟩
    · simp [Event.level]
    rw [Registry.empty.loadFile_eq_of_ok (Registry.sourceAt_of_resolve_ok found), read]
    exact Registry.load_eq_of_error .empty malformed

/-- The fault for which there is no document is told by all that is said about it. -/
theorem tellsFault_of_noDocument (noDocument : NoDocument files path fault) :
    TellsFault fault (faultDetail fault) := by
  cases noDocument with
  | unresolved => exact tellsFault_unread _ _
  | unread => exact tellsFault_unread _ _
  | malformed found read malformed =>
    obtain ⟨n, lineFault, -, rfl⟩ := Ini.read_eq_error_iff.1 malformed
    exact tellsFault_malformed _

/-! ## Logs -/

/-- A log tells only what is not for debugging. -/
theorem logLines_congr {events more : List Event}
    (same : events.filter (·.level != .debug) = more.filter (·.level != .debug)) :
    logLines events = logLines more := by
  rw [logLines, logLines, same]

/-! ## Documents that suit -/

/-- The document has no value at a key, or one of some form. -/
def HasOnly (document : Document) (k : Key) (form : Value → Prop) : Prop :=
  ∀ v, document.find? k = some v → form v

/-- Each of the five settings is absent or of its kind, and the name of the server is not empty. -/
@[mk_iff]
structure Suits (document : Document) : Prop where
  host : HasOnly document hostKey fun v => ∃ content, v = .text content ∧ content ≠ ""
  port : HasOnly document listenKey fun v => ∃ number, v = .integer number
  timeout : HasOnly document timeoutKey fun v => ∃ number, v = .float number
  allowed : HasOnly document allowedKey fun v => ∃ elements, v = .array elements
  verbose : HasOnly document verboseKey fun v => ∃ truth, v = .boolean truth

theorem sound_declared : Sound declared where
  distinct := by decide +kernel
  hasDefault := by
    simp only [declared, List.forall_mem_cons]
    exact ⟨⟨_, rfl, rfl, by decide⟩, ⟨_, rfl, rfl, by decide⟩, ⟨_, rfl, rfl, nofun⟩,
      ⟨_, rfl, rfl, nofun⟩, ⟨_, rfl, rfl, nofun⟩, nofun⟩

/-- A setting is without a fault when its value is of a form that goes with the declared kind. -/
theorem fault?_eq_none_iff_hasOnly {d : Declaration} {form : Value → Prop}
    (forms : ∀ v : Value,
      v.kind? = some d.preset.kind ∧ (d.required = true → v.isEmpty = false) ↔ form v) :
    d.fault? document = none ↔ HasOnly document d.key form :=
  Declaration.fault?_eq_none_iff.trans (forall₂_congr fun v _ => forms v)

/-- The documents that suit are those without a fault in a setting. -/
theorem faults_eq_nil_iff : faults declared document = [] ↔ Suits document := by
  rw [faults, List.filterMap_eq_nil_iff, suits_iff]
  simp only [declared, List.forall_mem_cons, List.not_mem_nil, false_implies, implies_true, and_true]
  refine and_congr (fault?_eq_none_iff_hasOnly ?_) (and_congr (fault?_eq_none_iff_hasOnly ?_)
    (and_congr (fault?_eq_none_iff_hasOnly ?_) (and_congr (fault?_eq_none_iff_hasOnly ?_)
      (fault?_eq_none_iff_hasOnly ?_))))
  all_goals
    intro v
    cases v <;> simp [Preset.kind, Value.kind?, Value.isEmpty]

/-! ## Values -/

/-- The five values: those of the document where it has them, and elsewhere the defaults. -/
def values (document : Document) : List Value :=
  let value (k : Key) (default : Value) : Value := (document.find? k).getD default
  [value hostKey (.text "localhost"), value listenKey (.integer 80),
    value timeoutKey (.float defaultTimeout), value allowedKey (.array []),
    value verboseKey (.boolean false)]

/-- The text that is shown for a value. -/
def shownText : Value → String
  | .array elements => Text.quoteList (elements.map Value.render)
  | v => v.render

/-- What stands before the values. -/
def labels : List String := ["host    = ", "port    = ", "timeout = ", "allowed = ", "verbose = "]

/-- The lines of the five values. -/
def valueLines (document : Document) : List String :=
  List.zipWith (· ++ ·) labels ((values document).map shownText)

/-- The line for the attempt to read the number of the port as a text. -/
def wrongKind : String :=
  "expected failure: 'server.port' is registered as integer, requested as string"

theorem map_valueIn_declared (document : Document) :
    declared.map (·.valueIn document) = (values document).map some := by
  simp only [declared, List.map_cons, List.map_nil, Declaration.valueIn, Preset.default?,
    Option.or_some]
  rfl

theorem valueIn_of_getElem? {i : Nat} {d : Declaration} {v : Value} (nth : declared[i]? = some d)
    (value : (values document)[i]? = some v) : d.valueIn document = some v := by
  have same := congrArg (·[i]?) (map_valueIn_declared document)
  simp only [List.getElem?_map, nth, value, Option.map_some] at same
  exact Option.some.inj same

theorem HasOnly.getD {k : Key} {form : Value → Prop} (h : HasOnly document k form) (default : Value)
    (ofDefault : form default) : form ((document.find? k).getD default) := by
  cases held : document.find? k with
  | none => exact ofDefault
  | some v => exact h v held

/-- The values over a document that suits have the declared kinds. -/
theorem Suits.exists_values (suits : Suits document) :
    ∃ host number timeout allowed verbose, values document =
      [.text host, .integer number, .float timeout, .array allowed, .boolean verbose] := by
  obtain ⟨host, hostValue, -⟩ := suits.host.getD (.text "localhost") ⟨_, rfl, by decide⟩
  obtain ⟨number, portValue⟩ := suits.port.getD (.integer 80) ⟨_, rfl⟩
  obtain ⟨timeout, timeoutValue⟩ := suits.timeout.getD (.float defaultTimeout) ⟨_, rfl⟩
  obtain ⟨allowed, allowedValue⟩ := suits.allowed.getD (.array []) ⟨_, rfl⟩
  obtain ⟨verbose, verboseValue⟩ := suits.verbose.getD (.boolean false) ⟨_, rfl⟩
  refine ⟨host, number, timeout, allowed, verbose, ?_⟩
  simp only [values, hostValue, portValue, timeoutValue, allowedValue, verboseValue]

/-- Nothing in a document that was read from a text is shown in a way from which it could not be
told. -/
theorem HoldsDocument.tells_shownText (holds : HoldsDocument files path document)
    (suits : Suits document) : ∀ v ∈ values document, Tells v (shownText v) := by
  obtain ⟨text, -, read⟩ := holds
  have scalars : HasOnly document allowedKey fun v =>
      ∃ elements, v = .array elements ∧ ∀ e ∈ elements, Ini.IsScalar True e := by
    intro v held
    obtain ⟨elements, rfl⟩ := suits.allowed v held
    refine ⟨elements, rfl, fun e mem => ?_⟩
    obtain ⟨-, -, value⟩ := Ini.isIniDocument_of_read read allowedKey _ held
    cases value with
    | scalar isScalar => cases isScalar
    | array isElement => exact (isElement e mem).isScalar
  obtain ⟨elements, array, elementScalars⟩ := scalars.getD (.array []) ⟨[], rfl, nofun⟩
  obtain ⟨host, number, timeout, allowed, verbose, same⟩ := suits.exists_values
  obtain rfl : allowed = elements := by
    have nth : (values document)[3]? = some (.array elements) := congrArg some array
    rw [same] at nth
    exact Value.array.inj (Option.some.inj nth)
  rw [same]
  simp only [List.forall_mem_cons]
  exact ⟨.scalar (.text _), .scalar (tellsScalar_render (.integer _)),
    .scalar (tellsScalar_render (.float trivial _)), tells_quoteList elementScalars,
    .scalar (tellsScalar_render (.boolean _)), nofun⟩

theorem linesUntilFault_map_ok (lines : List String) :
    linesUntilFault (lines.map .ok) = (lines, none) := by
  induction lines with
  | nil => rfl
  | cons line lines ih => rw [List.map_cons, linesUntilFault, ih]

section Valid

variable {r : Registry} {o : Outcome Registry (List (Except Fault Unit))}

/-- After all declarations a valid configuration has a line for each setting. -/
theorem settingLines_eq (h : Outcomes declared r o) (valid : o.state.valid = true)
    (suits : Suits r.document) : settingLines o.state = (valueLines r.document).map .ok := by
  obtain ⟨host, number, timeout, allowed, verbose, same⟩ := suits.exists_values
  have gets : ∀ {i : Nat} {d : Declaration} {v : Value} {β : Type} (reader : Reader β) {data : β},
      declared[i]? = some d → (values r.document)[i]? = some v → d.preset.kind = reader.kind →
      reader.read v = some data → o.state.get reader d.key = .ok data :=
    fun _ _ nth value kind read =>
      h.get_eq_ok valid (List.mem_of_getElem? nth) kind (valueIn_of_getElem? nth value) read
  rw [same] at gets
  have getHost : o.state.get .string hostKey = .ok host := gets (i := 0) _ rfl rfl rfl rfl
  have getPort : o.state.get .integer listenKey = .ok number := gets (i := 1) _ rfl rfl rfl rfl
  have getTimeout : o.state.get .float timeoutKey = .ok timeout := gets (i := 2) _ rfl rfl rfl rfl
  have getAllowed : o.state.get .stringArray allowedKey = .ok (allowed.map Value.render) :=
    gets (i := 3) _ rfl rfl rfl rfl
  have getVerbose : o.state.get .boolean verboseKey = .ok verbose := gets (i := 4) _ rfl rfl rfl rfl
  rw [settingLines, getHost, getPort, getTimeout, getAllowed, getVerbose, valueLines, same]
  rfl

theorem wrongKindLine_eq (h : Outcomes declared r o) (valid : o.state.valid = true) :
    wrongKindLine o.state = wrongKind := by
  have nth : declared[1]? = some ⟨"server", "port", .integer 80, true⟩ := rfl
  obtain ⟨port, -⟩ := h.declares_of_valid valid (List.mem_of_getElem? nth)
  have mismatch : o.state.get .string listenKey = _ :=
    h.agrees.get_of_differs port (show Kind.integer ≠ Kind.string by decide)
  rw [wrongKindLine, mismatch]
  rfl

end Valid

/-! ## Runs -/

/-- The outcome of the declarations on a document from a file. -/
def readyOn (document : Document) : Outcome Registry (List (Except Fault Unit)) :=
  (Registry.fresh document "ini-file").declareEach declared

theorem outcomes_readyOn (document : Document) :
    Outcomes declared (.fresh document "ini-file") (readyOn document) :=
  sound_declared.outcomes (Registry.agrees_fresh document _) fun _ _ => rfl

theorem valid_readyOn_iff : (readyOn document).state.valid = true ↔ Suits document := by
  rw [(outcomes_readyOn document).valid_iff, ← faults_eq_nil_iff]
  exact and_iff_right rfl

/-- The log of a run on a document from a file: a line for the document, and one for each fault. -/
def logOn (document : Document) : List String :=
  logLines (.loaded document.size "ini-file" :: (faults declared document).map .invalidated)

theorem run_of_ok (r : Registry) (events : List Event) :
    run ⟨.ok (), r, events⟩ =
      if (r.declareEach declared).state.valid then
        report (r.declareEach declared).state (logLines (events ++ (r.declareEach declared).events))
      else ⟨1, logLines (events ++ (r.declareEach declared).events),
        ["Configuration is invalid, see log output"]⟩ := by
  simp only [run]

theorem run_of_error (r : Registry) (events : List Event) (fault : Fault) :
    run ⟨.error fault, r, events⟩ = ⟨1, logLines events, ["Error: " ++ faultDetail fault]⟩ := by
  simp only [run, stopped]

theorem runAt_of_document (holds : HoldsDocument files path document) :
    runAt files (some path) =
      if (readyOn document).state.valid then report (readyOn document).state (logOn document)
      else ⟨1, logOn document, ["Configuration is invalid, see log output"]⟩ := by
  obtain ⟨size, place, loads⟩ := loadFile_of_document holds
  have log : logLines ([.fileRead size place, .loaded document.size "ini-file"] ++
      (readyOn document).events) = logOn document := by
    have warned : ∀ e ∈ Event.loaded document.size "ini-file" ::
        (faults declared document).map .invalidated, (e.level != .debug) = true := by
      simp [Event.level]
    apply logLines_congr
    rw [List.filter_append, (outcomes_readyOn document).reports, List.filter_eq_self.2 warned]
    rfl
  rw [runAt, loads, run_of_ok, ← readyOn, log]

theorem runAt_of_fault (noDocument : NoDocument files path fault) :
    ∃ event detail, (event = .openFailed path fault ∨ event = .loadFailed "ini-file" fault) ∧
      TellsFault fault detail ∧
      runAt files (some path) = ⟨1, logLines [event], ["Error: " ++ detail]⟩ := by
  obtain ⟨reading, event, silent, told, loads⟩ := loadFile_of_fault noDocument
  refine ⟨event, _, told, tellsFault_of_noDocument noDocument, ?_⟩
  have log : logLines (reading ++ [event]) = logLines [event] := by
    apply logLines_congr
    rw [List.filter_append, List.filter_eq_nil_iff.2, List.nil_append]
    intro e mem
    rw [silent e mem]
    exact Bool.false_ne_true
  rw [runAt, loads, run_of_error, log]

/-- With a document that suits the program gets through. -/
theorem runAt_of_suits (holds : HoldsDocument files path document) (suits : Suits document) :
    runAt files (some path) = ⟨0, logOn document ++ valueLines document ++ [wrongKind], []⟩ := by
  have outcomes := outcomes_readyOn document
  have valid := valid_readyOn_iff.2 suits
  rw [runAt_of_document holds, if_pos valid, report, settingLines_eq outcomes valid suits,
    linesUntilFault_map_ok, wrongKindLine_eq outcomes valid]
  rfl

theorem runAt_of_not_suits (holds : HoldsDocument files path document) (faulty : ¬ Suits document) :
    runAt files (some path) =
      ⟨1, logOn document, ["Configuration is invalid, see log output"]⟩ := by
  rw [runAt_of_document holds, if_neg (mt valid_readyOn_iff.1 faulty)]

/-- Whatever is in the file tree and at the path, the program exits with the code 0 exactly when the
path leads to a document that suits it. Then no getter fails, the lines of the values are those of
the document or else of the defaults, each of which can be told from its line, and the reading as a
wrong kind fails. In every other case the code is 1, and the log is all that is shown: the error
tells why there is no document, or else says that the configuration is invalid. -/
theorem start_up_is_sound (files : FileTree) (path : String) :
    ((runAt files (some path)).code = 0 ↔
      ∃ document, HoldsDocument files path document ∧ Suits document) ∧
    (∀ document, HoldsDocument files path document → Suits document →
      runAt files (some path) = ⟨0, logOn document ++ valueLines document ++ [wrongKind], []⟩ ∧
      (∀ v ∈ values document, Tells v (shownText v)) ∧
      ∀ d ∈ declared, ∀ {β : Type} (reader : Reader β), reader.BuiltIn →
        d.preset.kind = reader.kind →
        ∃ v data, d.valueIn document = some v ∧
          (readyOn document).state.get reader d.key = .ok data ∧ reader.Gives v data) ∧
    (∀ document, HoldsDocument files path document → ¬ Suits document →
      runAt files (some path) =
        ⟨1, logOn document, ["Configuration is invalid, see log output"]⟩) ∧
    (∀ fault, NoDocument files path fault →
      ∃ event detail, (event = .openFailed path fault ∨ event = .loadFailed "ini-file" fault) ∧
        TellsFault fault detail ∧
        runAt files (some path) = ⟨1, logLines [event], ["Error: " ++ detail]⟩) ∧
    ((∃ document, HoldsDocument files path document) ∨ ∃ fault, NoDocument files path fault) := by
  have ways := exists_document_or_fault files path
  refine ⟨⟨fun through => ?_, ?_⟩, fun document holds suits =>
    ⟨runAt_of_suits holds suits, holds.tells_shownText suits, fun d mem β reader builtIn kind => ?_⟩,
    fun _ holds => runAt_of_not_suits holds, fun _ => runAt_of_fault, ways⟩
  · rcases ways with ⟨document, holds⟩ | ⟨fault, noDocument⟩
    · refine ⟨document, holds, Classical.byContradiction fun faulty => ?_⟩
      rw [runAt_of_not_suits holds faulty] at through
      cases through
    · obtain ⟨event, detail, -, -, stopped⟩ := runAt_of_fault noDocument
      rw [stopped] at through
      cases through
  · rintro ⟨document, holds, suits⟩
    rw [runAt_of_suits holds suits]
  · exact (outcomes_readyOn document).get_gives (valid_readyOn_iff.2 suits) mem builtIn kind

/-- A file with all settings: the port is zero, and the list has a number, a text with quotes,
another number and a truth value. -/
def fullText : String :=
  "[server]\nhost = example.org\nport = 0\ntimeout = 25e-1\nallowed = 7, say \"hi\", 1e3, True\n" ++
    "[logging]\nverbose = TRUE\n"

/-- A tree with this file only. -/
def fullTree : FileTree := ⟨[("c.ini", .file fullText.toUTF8 true)]⟩

/-- Who may connect by the file. -/
def fullList : List Value :=
  [.integer 7, .text "say \"hi\"", .float (.ofDecimal ⟨false, 1, 3⟩), .boolean true]

/-- How the list is shown. -/
def fullListText : String := "[\"7\", \"say \\\"hi\\\"\", \"1000\", \"true\"]"

/-- What the file is read as. -/
def fullDocument : Document := .ofList
  [(hostKey, .text "example.org"), (listenKey, .integer 0),
    (timeoutKey, .float (.ofDecimal ⟨false, 25, -1⟩)), (allowedKey, .array fullList),
    (verboseKey, .boolean true)]

/-- The program gets through with the values of the file, and its list can be told from its line. -/
theorem start_up_with_full_file :
    HoldsDocument fullTree "/c.ini" fullDocument ∧ Suits fullDocument ∧
    runAt fullTree (some "/c.ini") =
      ⟨0, ["INFO inicfg::service::registry: Loaded 5 configuration items from 'ini-file'",
        "host    = example.org", "port    = 0", "timeout = 2.5",
        "allowed = " ++ fullListText, "verbose = true",
        "expected failure: 'server.port' is registered as integer, requested as string"], []⟩ ∧
    Tells (.array fullList) fullListText := by
  have file : fullTree.find? ["c.ini"] = some (.file fullText.toUTF8 true) := rfl
  have holds : HoldsDocument fullTree "/c.ini" fullDocument :=
    ⟨fullText, .text file (by decide +kernel) (by decide +kernel), by decide +kernel⟩
  have suits : Suits fullDocument := faults_eq_nil_iff.1 (by decide +kernel)
  obtain ⟨ran, tells, -⟩ := (start_up_is_sound fullTree "/c.ini").2.1 _ holds suits
  refine ⟨holds, suits, ?_, ?_⟩
  · rw [ran]
    decide +kernel
  · have nth : (values fullDocument)[3]? = some (.array fullList) := rfl
    have shown : shownText (.array fullList) = fullListText := by decide +kernel
    exact shown ▸ tells _ (List.mem_of_getElem? nth)

end TypedSettings.StartUp
