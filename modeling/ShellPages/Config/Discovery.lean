import ShellPages.Config
import ShellPages.Files.Tree
import ShellPages.Page.Pack
import ShellPages.Page.Store

/-!
# Machines and their configurations

What a run depends on apart from its arguments: the files, the working directory and the
environment.

Without an explicit configuration file, one is looked for: first in a directory, under each of the
usual names, and then among the user's configurations. A configuration in turn leads to a store of
pages.
-/

namespace ShellPages

/-! ## Machines -/

/-- The surroundings of a run. -/
structure Machine where
  files : Files.Tree := .empty
  /-- The working directory. -/
  cwd : Files.Place := []
  /-- The variable for the home directory. -/
  home : Option String := none
  /-- The home directory of the account, for want of the variable. -/
  accountHome : Option String := none
  /-- The variable for the directory of configurations. -/
  configHome : Option String := none
  /-- The variable for the log filter. -/
  logFilter : Option String := none

namespace Machine

/-- The path of the working directory. -/
def cwdPath (m : Machine) : String :=
  "/" ++ Files.joinParts m.cwd

/-- Whether a path leads to a regular file. -/
def isFile (m : Machine) (path : String) : Bool :=
  (m.files.file? m.cwd path).isSome

/-- Whether a path leads to a directory. -/
def isDirectory (m : Machine) (path : String) : Bool :=
  m.files.isDirectory m.cwd path

/-- The home directory of the user. -/
def userHome? (m : Machine) : Option String :=
  match m.home with
  | some home => if home.isEmpty then m.accountHome else some home
  | none => m.accountHome

/-- The directory of the user's configurations: the one that the environment names, if its path is
absolute, and otherwise one in the home directory. Without home there is none. -/
def userConfigs? (m : Machine) : Option String :=
  m.userHome?.map fun home =>
    match m.configHome with
    | some directory => if Files.isAbsolute directory then directory else Files.join home ".config"
    | none => Files.join home ".config"

end Machine

/-! ## Finding configurations and their pages -/

namespace Machine

/-- The places in which a configuration is looked for from a directory, in order. -/
def configPaths (m : Machine) (directory : String) : List String :=
  Config.fileNames.map (Files.join directory) ++
    (m.userConfigs?.bind fun configs =>
      Config.fileNames.head?.map fun name =>
        Files.join (Files.join configs "shelldoc") name).toList

/-- The configuration file that is found from a directory. -/
def discover (m : Machine) (directory : String) : Option String :=
  (m.configPaths directory).find? m.isFile

end Machine

/-- The store that a configuration selects: the pages below its root, or those of the program
itself. -/
def Config.store (c : Config) (m : Machine) : Store :=
  match c.docs.root? with
  | some root => PageDirectory.store ⟨m.files, m.cwd, root⟩
  | none => Page.packShelf.store

end ShellPages
