import TypedSettings.FileTree
import TypedSettings.Ini.Reader
import TypedSettings.Registry.Basic

/-!
# Files of INI text

A file is opened by its path, which is resolved once; its text is read anew whenever the file is
asked for its document. What a file gives is what its text gives, apart from the source's name
and the report of the reading.
-/

namespace TypedSettings
set_option autoImplicit false

/-- An opened file, by the canonical path that it was found under. -/
structure IniFile where
  names : List String
  deriving DecidableEq

namespace IniFile

/-- The name of the source that a file is. -/
def sourceName : String := "ini-file"

/-- The path of an opened file. -/
def path (f : IniFile) : String := FileTree.canonicalText f.names

/-- Opens the file that a path leads to. A directory can be opened, but not read. -/
def openAt (files : FileTree) (path : String) : Except Fault IniFile :=
  match files.resolve path with
  | .ok names => .ok ⟨names⟩
  | .error fault => .error (.fileReadFailed path fault)

/-- The source that the text of a file, or the failure to read it, stands for. -/
def sourceOf (path : String) : Except FileFault String → Source
  | .ok text => ⟨sourceName, Ini.read text, some ⟨text.utf8ByteSize, path⟩⟩
  | .error fault => .plain sourceName (.error (.fileReadFailed path fault))

/-- What an opened file gives in a file tree. -/
def source (f : IniFile) (files : FileTree) : Source := sourceOf f.path (files.readText f.names)

/-- Opens the file that a path leads to and asks it at once. -/
def sourceAt (files : FileTree) (path : String) : Except Fault Source :=
  (openAt files path).map (·.source files)

end IniFile

/-- Replaces everything by what the file at a path holds; if that fails, nothing changes. -/
def Registry.loadFile (r : Registry) (files : FileTree) (path : String) :
    Outcome Registry (Except Fault Unit) :=
  r.loadOpened path (IniFile.sourceAt files path)

end TypedSettings
