import ShellPages.Command.Run
import ShellPages.Command.Usage

/-!
# The program

A run works on a picture of the machine. The program looks at the places that a request may lead
to, runs the request on what it has found, prints what comes out and makes the changes to the
files. A link is pictured as a link to where it ends; one that leads nowhere is left out.
-/

namespace ShellPages.Program

open Files (Tree Entry Place)

/-- The names in a path from the root. -/
def placeOf (path : String) : Place :=
  (Files.parts path).filter fun name => name != ""

/-- The path of a place. -/
def pathOf (place : Place) : String :=
  "/" ++ Files.joinParts place

/-- A tree with an entry at a place, and the directories that lead there. -/
def enter (files : Tree) (place : Place) (entry : Entry) : Tree :=
  let above := (List.range place.length).map place.take
  (above.foldl (fun files p => if p.isEmpty then files else files.set p .directory) files).set
    place entry

/-- Look at a place without links on the way. -/
def lookAtEnd (files : Tree) (place : Place) : IO Tree := do
  let path := (← IO.currentDir) / pathOf place
  match (← path.symlinkMetadata).type with
  | .dir => return enter files place .directory
  | .file => return enter files place (.file (← IO.FS.readBinFile path))
  | .symlink | .other => return files

/-- Look at a place whose directory has no links on the way. -/
def lookAt (files : Tree) (place : Place) : IO Tree := do
  let path := (← IO.currentDir) / pathOf place
  match (← path.symlinkMetadata).type with
  | .symlink =>
    let target := (← IO.FS.realPath path).toString
    lookAtEnd (enter files place (.link target)) (placeOf target)
  | _ => lookAtEnd files place

/-- Look at all that a path passes on the way to its end. -/
def lookAlong (cwd : String) (files : Tree) (path : String) : IO Tree := do
  let names := placeOf (Files.join cwd path)
  let mut files := files
  for n in List.range names.length do
    try
      let directory := (← IO.FS.realPath (pathOf (names.take n))).toString
      let name := names.getD n "."
      unless Files.isIdle name || name == ".." do
        files ← lookAt files (placeOf directory ++ [name])
    catch _ => return files
  return files

/-- Look at a path and at all that is directly in it. -/
def lookInto (cwd : String) (files : Tree) (path : String) : IO Tree := do
  let mut files ← lookAlong cwd files path
  try
    for entry in ← ((← IO.currentDir) / path).readDir do
      files ← lookAlong cwd files (Files.join path entry.fileName)
    return files
  catch _ => return files

/-- Look at the paths of a list. -/
def lookAlongAll (m : Machine) (paths : List String) : IO Machine := do
  return { m with files := ← paths.foldlM (lookAlong m.cwdPath) m.files }

/-- Look at the configurations that a run may use. -/
def lookForConfig (m : Machine) (explicit : Option String) : IO Machine :=
  lookAlongAll m (explicit.elim (m.configPaths m.cwdPath) ([·]))

/-- Look at the root of a configuration and at the pages of its sources. -/
def lookForPages (m : Machine) (c : Config) : IO Machine := do
  match c.docs.root? with
  | none => return m
  | some root =>
    let bases := c.sources.map fun s => PageDirectory.pathOf ⟨m.files, m.cwd, root⟩ s.base
    return { m with files := ← (root :: bases).foldlM (lookInto m.cwdPath) m.files }

/-- Look at all that a command may look at. -/
def lookFor (m : Machine) : Command → IO Machine
  | .init request => lookAlongAll m [request.output]
  | .inspections request => do
    let m ← lookForConfig m request.config
    match m.configAt (m.configPath? request.config) with
    | .ok c => lookAlongAll m c.docs.root?.toList
    | .error _ => return m
  | .doc request => do
    let m ← lookForConfig m request.config
    let m ← lookAlongAll m request.docsDirectory.toList
    match m.configAt (m.configPath? request.config) with
    | .ok c =>
      let m ← lookForPages m c
      match request.docsDirectory with
      | some root => lookForPages m { c with docs.root? := some root }
      | none => return m
    | .error _ => return m

/-- Make the files and directories that a run has added. -/
def apply (before after : Tree) : IO Unit :=
  for (place, entry) in after.entries.reverse do
    if (before.get? place).isNone then
      match entry with
      | .directory => IO.FS.createDir (pathOf place)
      | .file bytes => IO.FS.writeBinFile (pathOf place) bytes
      | .link _ => pure ()

/-- The machine, with nothing seen of its files. -/
def machine : IO Machine := do
  return {
    cwd := placeOf (← IO.currentDir).toString
    home := ← IO.getEnv "HOME"
    configHome := ← IO.getEnv "XDG_CONFIG_HOME"
    logFilter := ← IO.getEnv LogFilter.variableName }

/-- Run a request, and tell how it ends. -/
def run (request : Request) : IO ExitStatus := do
  let color := Style.wanted (← (← IO.getStdout).isTty) (← IO.getEnv "CLICOLOR_FORCE")
    (← IO.getEnv "NO_COLOR") (← IO.getEnv "CLICOLOR")
  let m ← lookFor (← machine) request.command
  let o := request.command.run m color
  apply m.files o.files
  IO.eprint (o.messages (LogFilter.ofVariable m.logFilter request.verbose))
  IO.print o.output
  return o.status

end ShellPages.Program

open ShellPages in
/-- Run the program. -/
def main (arguments : List String) : IO UInt32 := do
  match Request.parse arguments with
  | .error ending =>
    if ending.isWanted then IO.print ending.text else IO.eprint ending.text
    return ending.exitCode.toUInt32
  | .ok request =>
    try
      return (← Program.run request).code.toUInt32
    catch fault =>
      IO.eprintln s!"Error: {fault}"
      return ExitStatus.fault.code.toUInt32
