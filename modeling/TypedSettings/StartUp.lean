import TypedSettings.IniFile
import TypedSettings.Registry.Declare
import TypedSettings.Text.Logged

/-!
# Starting up from a configuration

A small server program shows how a configuration is used: it loads one, declares the five settings
that it expects, checks once that the configuration is valid, and only then reads the settings.
What it writes is given as lines, and its exit code is zero exactly when it got through.
-/

namespace TypedSettings.StartUp
set_option autoImplicit false

/-- The configuration that is used when no file is named. -/
def sample : String :=
  "[server]\nhost = example.org\nport = 8080\nallowed = alpha,beta,gamma\n\n[logging]\nverbose = true\n"

/-- What the program writes, and the code that it exits with. -/
structure Transcript where
  code : Nat
  out : List String
  err : List String
  deriving DecidableEq, Repr

/-! ## The settings -/

/-- The name or address of the server. -/
def hostKey : Key := .of "server" "host"

/-- Where the server listens. -/
def listenKey : Key := .of "server" "port"

/-- How long the server waits, in seconds. -/
def timeoutKey : Key := .of "server" "timeout"

/-- Who may connect. -/
def allowedKey : Key := .of "server" "allowed"

/-- Whether much is logged. -/
def verboseKey : Key := .of "logging" "verbose"

/-- Thirty seconds. -/
def defaultTimeout : Binary64 := .ofDecimal ⟨false, 30, 0⟩

/-- What the program declares, in order. -/
def declared : List Declaration :=
  [⟨"server", "host", .string "localhost", true⟩, ⟨"server", "port", .integer 80, true⟩,
    ⟨"server", "timeout", .float defaultTimeout, false⟩,
    ⟨"server", "allowed", .stringArray [], false⟩, ⟨"logging", "verbose", .boolean false, false⟩]

/-! ## What is written -/

/-- The name under which the registry reports. -/
def logTarget : String := "inicfg::service::registry"

/-- The lines that the events fill in a log; what is only there for debugging is left out. -/
def logLines (events : List Event) : List String :=
  (events.filter fun e => e.level != .debug).flatMap fun e =>
    Text.printedLines s!"{e.level.name} {logTarget}: {Text.logged e.text}"

/-- A line for each setting, or the fault of the first one that cannot be read. -/
def settingLines (r : Registry) : List (Except Fault String) :=
  [(r.get .string hostKey).map fun host => "host    = " ++ host,
    (r.get .integer listenKey).map fun number => "port    = " ++ number.toInt.repr,
    (r.get .float timeoutKey).map fun timeout => "timeout = " ++ timeout.text,
    (r.get .stringArray allowedKey).map fun allowed => "allowed = " ++ Text.quoteList allowed,
    (r.get .boolean verboseKey).map fun verbose => "verbose = " ++ Value.truthText verbose]

/-- The lines before the first fault, and the fault. -/
def linesUntilFault : List (Except Fault String) → List String × Option Fault
  | [] => ([], none)
  | .error fault :: _ => ([], some fault)
  | .ok line :: rest => (line :: (linesUntilFault rest).1, (linesUntilFault rest).2)

/-- A setting read as another kind fails for itself only. -/
def wrongKindLine (r : Registry) : String :=
  match r.get .string listenKey with
  | .ok text => "unexpected: " ++ text
  | .error fault => s!"expected failure: {fault}"

/-! ## Faults that end the program -/

/-- The category of an error of the operating system. -/
def category : SystemFault → String
  | .notFound => "NotFound"
  | .permissionDenied => "PermissionDenied"
  | .notADirectory => "NotADirectory"
  | .isADirectory => "IsADirectory"
  | .nameTooLong => "InvalidFilename"
  | .linkLoop => "FilesystemLoop"

/-- A name with named parts between braces. -/
def record (name : String) (parts : List (String × String)) : String :=
  name ++ " \x7b " ++ ", ".intercalate (parts.map fun p => p.1 ++ ": " ++ p.2) ++ " \x7d"

/-- All parts of the fault of a file. -/
def fileFaultDetail (fault : FileFault) : String :=
  let words := Text.quote fault.message
  match fault with
  | .system f => record "Os"
      [("code", toString f.code), ("kind", category f), ("message", Text.quote f.words)]
  | .nulInPath => record "Error" [("kind", "InvalidInput"), ("message", words)]
  | .notUtf8 => record "Error" [("kind", "InvalidData"), ("message", words)]
  | .tooLarge _ => record "Custom" [("kind", "InvalidData"), ("error", words)]
  | .noHome => record "Custom" [("kind", "NotFound"), ("error", words)]
  | .described _ => record "Custom" [("kind", "Other"), ("error", words)]

/-- All parts of a fault of loading; of any other fault what is said about it. -/
def faultDetail : Fault → String
  | .fileReadFailed path cause => record "FileReadFailed"
      [("path", Text.quote path), ("source", fileFaultDetail cause)]
  | .parseFailed message => record "ParseFailed" [("message", Text.quote message)]
  | fault => fault.message

/-! ## The program -/

/-- The end of a program that a fault stops. -/
def stopped (out : List String) (fault : Fault) : Transcript :=
  ⟨1, out, ["Error: " ++ faultDetail fault]⟩

/-- Reads and shows the settings of a valid configuration. -/
def report (r : Registry) (log : List String) : Transcript :=
  match linesUntilFault (settingLines r) with
  | (shown, some fault) => stopped (log ++ shown) fault
  | (shown, none) => ⟨0, log ++ shown ++ [wrongKindLine r], []⟩

/-- Runs the program on what the loading of its configuration gave. It makes all of its declarations
whatever each of them is answered; the validity of the registry tells whether one of them mattered. -/
def run (loaded : Outcome Registry (Except Fault Unit)) : Transcript :=
  match loaded.reply with
  | .error fault => stopped (logLines loaded.events) fault
  | .ok () =>
    let ready := loaded.state.declareEach declared
    let log := logLines (loaded.events ++ ready.events)
    if ready.state.valid then report ready.state log
    else ⟨1, log, ["Configuration is invalid, see log output"]⟩

/-- Runs the program on the file at a path, or on the sample. -/
def runAt (files : FileTree) : Option String → Transcript
  | some path => run (Registry.empty.loadFile files path)
  | none => run (Registry.ofSource (Ini.source sample))

end TypedSettings.StartUp
