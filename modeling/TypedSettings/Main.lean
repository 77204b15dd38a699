import TypedSettings.StartUp

/-!
# The command line

The first argument is the path of a configuration file; without one the sample is used. This
module only asks the system for the file and writes the lines of the program.
-/

namespace TypedSettings.CommandLine
set_option autoImplicit false

/-- The number of an error of the system; some calls give it with a minus. -/
def systemCode? : IO.Error → Option Nat
  | .noFileOrDirectory _ code _ | .permissionDenied _ code _ | .inappropriateType _ code _
  | .invalidArgument _ code _ => some code.toInt32.toInt.natAbs
  | _ => none

/-- The fault that an error of the system stands for. -/
def faultOfError (e : IO.Error) : FileFault :=
  match SystemFault.all.find? fun f => some f.code == systemCode? e with
  | some fault => .system fault
  | none => .described (toString e)

/-- The source in the file at a path. Asking for the metadata first tells why a path leads nowhere. -/
def openFile (path : String) : IO (Except Fault Source) := do
  try
    discard (System.mkFilePath [path]).metadata
    let found ← IO.FS.realPath path
    let text ← try
        let size := (← found.metadata).byteSize.toNat
        if fileSizeLimit < size then pure (.error (.tooLarge size))
        else pure (FileTree.readBytes (← IO.FS.readBinFile found) true)
      catch e => pure (.error (faultOfError e))
    return .ok (IniFile.sourceOf found.toString text)
  catch e => return .error (.fileReadFailed path (faultOfError e))

/-- What the program writes when it is given arguments. -/
def transcript : List String → IO StartUp.Transcript
  | path :: _ => do return StartUp.run (Registry.empty.loadOpened path (← openFile path))
  | [] => return StartUp.runAt .empty none

end TypedSettings.CommandLine

open TypedSettings in
def main (args : List String) : IO UInt32 := do
  let t ← CommandLine.transcript args
  t.out.forM IO.println
  t.err.forM IO.eprintln
  return t.code.toUInt32
