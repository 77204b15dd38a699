import TypedSettings.IniFile
import TypedSettings.Text.Blank
import TypedSettings.Text.Lowercase

/-!
# Default locations

Without a path, the configuration of an application is looked for in a directory named after the
application, below the directory where the user's configurations are.
-/

namespace TypedSettings
set_option autoImplicit false

/-- Where a user's files are. -/
structure UserDirectories where
  /-- The home directory. -/
  home : Option String
  /-- The directory chosen for configurations; it counts only if it is an absolute path. -/
  config : Option String
  deriving DecidableEq

namespace UserDirectories

/-- The directory of the user's configurations; a user without a home has none. -/
def configDirectory? (u : UserDirectories) : Option String :=
  u.home.map fun home =>
    match u.config.filter FileTree.isAbsolute with
    | some directory => directory
    | none => FileTree.join home ".config"

/-- The name of an application's directory: its words in lower case, put together. -/
def applicationName (name : String) : String :=
  String.ofList ((Text.words name.toList).flatMap Text.lowercase)

/-- The path of a configuration file of an application. -/
def configPath? (u : UserDirectories) (application filename : String) : Option String :=
  u.configDirectory?.map fun directory =>
    FileTree.join (FileTree.join directory (applicationName application)) filename

end UserDirectories

namespace IniFile

/-- The file that is looked for when no name is given. -/
def defaultFilename : String := "config.ini"

/-- Opens a configuration file of an application at its default location. -/
def openDefault (files : FileTree) (user : UserDirectories) (application filename : String) :
    Except Fault IniFile :=
  match user.configPath? application filename with
  | some path => openAt files path
  | none => .error (.fileReadFailed filename .noHome)

end IniFile

end TypedSettings
