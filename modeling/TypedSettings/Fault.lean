import TypedSettings.Key
import TypedSettings.Kind

/-!
# Faults

What can go wrong with a configuration, and what is said about it. Two of the faults make the
configuration invalid; the others concern one call only.
-/

namespace TypedSettings
set_option autoImplicit false

/-- The most bytes that a configuration file may have. -/
def fileSizeLimit : Nat := 10 * 1024 * 1024

/-- Errors of the operating system that a path or a file can run into. -/
inductive SystemFault where
  | notFound
  | permissionDenied
  | notADirectory
  | isADirectory
  | nameTooLong
  | linkLoop
  deriving DecidableEq, Repr

namespace SystemFault

/-- The number of an error. -/
def code : SystemFault → Nat
  | notFound => 2
  | permissionDenied => 13
  | notADirectory => 20
  | isADirectory => 21
  | nameTooLong => 36
  | linkLoop => 40

/-- The words for an error. -/
def words : SystemFault → String
  | notFound => "No such file or directory"
  | permissionDenied => "Permission denied"
  | notADirectory => "Not a directory"
  | isADirectory => "Is a directory"
  | nameTooLong => "File name too long"
  | linkLoop => "Too many levels of symbolic links"

/-- The errors in order of their numbers. -/
def all : List SystemFault :=
  [notFound, permissionDenied, notADirectory, isADirectory, nameTooLong, linkLoop]

/-- What is said about an error. -/
def message (f : SystemFault) : String := s!"{f.words} (os error {f.code})"

end SystemFault

/-- Why a file cannot be opened or read. -/
inductive FileFault where
  | system (fault : SystemFault)
  | nulInPath
  | notUtf8
  | tooLarge (size : Nat)
  | noHome
  /-- A reason given in words only. -/
  | described (text : String)
  deriving DecidableEq, Repr

namespace FileFault

/-- What is said about a fault. -/
def message : FileFault → String
  | system fault => fault.message
  | nulInPath => "file name contained an unexpected NUL byte"
  | notUtf8 => "stream did not contain valid UTF-8"
  | tooLarge size => s!"Configuration file too large: {size} bytes (max {fileSizeLimit} bytes)"
  | noHome => "Failed to determine project directories"
  | described text => text

instance : ToString FileFault := ⟨message⟩

end FileFault

/-- Why a configuration cannot be loaded, declared or read. -/
inductive Fault where
  | fileReadFailed (path : String) (cause : FileFault)
  | parseFailed (message : String)
  | alreadyInitialized
  | notInitialized
  | typeMismatch (key : Key) (declared : Kind) (found : String)
  | alreadyRegistered (key : Key) (registered : Kind)
  | requiredMissing (key : Key)
  | invalidDefault (key : Key) (declared : Kind)
  | notRegistered (key : Key)
  | kindMismatch (key : Key) (registered requested : Kind)
  deriving DecidableEq

namespace Fault

/-- What is said about a fault. -/
def message : Fault → String
  | fileReadFailed path cause => s!"Failed to read configuration file '{path}': {cause}"
  | parseFailed message => s!"Failed to parse configuration: {message}"
  | alreadyInitialized => "Configuration is already initialized"
  | notInitialized => "Configuration is not initialized"
  | typeMismatch key declared found =>
    s!"Type mismatch for '{key}': declared {declared}, document holds {found}"
  | alreadyRegistered key registered => s!"'{key}' is already registered as {registered}"
  | requiredMissing key => s!"Required configuration item '{key}' is missing"
  | invalidDefault key declared => s!"Default value for '{key}' is not of type {declared}"
  | notRegistered key => s!"'{key}' is not registered"
  | kindMismatch key registered requested =>
    s!"'{key}' is registered as {registered}, requested as {requested}"

instance : ToString Fault := ⟨message⟩

/-- The fault that lies below this one. -/
def cause? : Fault → Option FileFault
  | fileReadFailed _ cause => some cause
  | _ => none

/-- The fault makes the whole configuration invalid. -/
def invalidates : Fault → Bool
  | typeMismatch .. | requiredMissing _ => true
  | _ => false

end Fault

end TypedSettings
