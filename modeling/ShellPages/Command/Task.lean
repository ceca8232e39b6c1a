import ShellPages.Config.Check
import ShellPages.Config.Discovery
import ShellPages.Config.Reading
import ShellPages.Construct
import ShellPages.Event

/-!
# Tasks and outcomes

A task is a part of a command: it writes to the log, and it gives a value or stops with a fault.
What has been logged before a fault stays. A run of a command ends with an outcome: what is
printed, the exit code, and the files as they are then.

One task is a part of several commands, that of loading a configuration. A run uses the one that it
is given, or else the one that is found from the working directory, or else the empty one. Whichever
it is, it is checked before it is used.
-/

namespace ShellPages

/-! ## Faults -/

/-- Why a command stops. -/
inductive CommandFault where
  | unknownFormat (name : String)
  | unknownKind (name : String)
  | unknownContext (name : String)
  /-- There are no names to look up. -/
  | noNames
  /-- The configuration at a path cannot be read. -/
  | unreadableConfig (path : String) (fault : ConfigReadFault)
  /-- The configuration can be read, but something is wrong with it. -/
  | invalidConfig (fault : ConfigFault)
  /-- The directory for pages is no directory. -/
  | noDocsDirectory (path : String)
  /-- The new configuration would replace what is there. -/
  | alreadyExists (path : String)
  /-- The directory of the new configuration cannot be made. -/
  | directoryNotMade (fault : Files.Fault)
  /-- The new configuration cannot be written. -/
  | notWritten (fault : Files.Fault)

namespace CommandFault

/-- What is told first. -/
def message : CommandFault → String
  | unknownFormat name => s!"invalid format {Text.quoted name}, must be 'pretty' or 'json'"
  | unknownKind name => Kind.unknownMessage name
  | unknownContext name => s!"invalid context {Text.quoted name}, must be 'test' or 'project'"
  | noNames => "no names given"
  | unreadableConfig path fault =>
    s!"invalid configuration: failed to parse {path}: {fault.message}"
  | invalidConfig fault => s!"invalid configuration: {fault.message}"
  | noDocsDirectory path => s!"docs directory {Text.quoted path} does not exist"
  | alreadyExists path => s!"file already exists: {path}"
  | directoryNotMade fault => s!"failed to create directory: {fault.message}"
  | notWritten fault => s!"failed to write configuration: {fault.message}"

/-- What can be done about it. -/
def advice? : CommandFault → Option String
  | noNames => some "Run 'shelldoc doc --list' to see documented names"
  | alreadyExists _ => some "Remove it or use --output to specify a different path"
  | _ => none

/-- The lines that a user is shown. -/
def lines (f : CommandFault) : List String :=
  s!"Error: {f.message}" :: f.advice?.toList

end CommandFault

/-! ## Tasks -/

/-- How a run ends. -/
inductive ExitStatus where
  | success
  /-- Some name has no documentation. -/
  | missing
  | fault
  deriving DecidableEq, Repr

/-- The exit code that tells how a run ended. -/
def ExitStatus.code : ExitStatus → Nat
  | success => 0
  | missing => 1
  | fault => 2

/-- A value or a fault, and the lines logged on the way. -/
structure Task (α : Type) where
  result : Except CommandFault α
  logs : List LogLine := []

namespace Task

variable {α β : Type}

/-- Stop with a fault. -/
def stop (fault : CommandFault) : Task α := ⟨.error fault, []⟩

/-- Write lines to the log. -/
def log (lines : List LogLine) : Task Unit := ⟨.ok (), lines⟩

/-- A value or a fault, with nothing logged. -/
def ofExcept (result : Except CommandFault α) : Task α := ⟨result, []⟩

/-- A value that may be missing; without it, stop. -/
def require (fault : CommandFault) : Option α → Task α
  | some a => ofExcept (.ok a)
  | none => stop fault

/-- Go on with the value of a task, if it has one. -/
def andThen (x : Task α) (f : α → Task β) : Task β :=
  match x.result with
  | .ok a => ⟨(f a).result, x.logs ++ (f a).logs⟩
  | .error fault => ⟨.error fault, x.logs⟩

instance : Monad Task where
  pure a := ⟨.ok a, []⟩
  bind := andThen

end Task

/-- What a command prints, and how it ends if nothing stops it. -/
structure Answer where
  output : String
  status : ExitStatus := .success
  deriving DecidableEq, Repr

/-- How a run ends. -/
structure Outcome where
  status : ExitStatus
  /-- What is printed. -/
  output : String := ""
  /-- The lines that tell of a fault. -/
  errors : List String := []
  /-- All lines of the log, whether they are shown or not. -/
  logs : List LogLine := []
  /-- The files after the run. -/
  files : Files.Tree

/-- The outcome of a task that leaves the given files. -/
def Task.outcome (t : Task Answer) (files : Files.Tree) : Outcome :=
  match t.result with
  | .ok answer => ⟨answer.status, answer.output, [], t.logs, files⟩
  | .error fault => ⟨.fault, "", fault.lines, t.logs, files⟩

/-! ## Loading a configuration -/

/-- The part of the program whose lines commands write to the log. -/
def commandTarget : String := "shelldoc::cli"

namespace Machine

/-- The path of the configuration of a run, if there is one. -/
def configPath? (m : Machine) (explicit : Option String) : Option String :=
  explicit <|> m.discover m.cwdPath

/-- The line that tells which configuration is used. -/
def configLine : Option String → LogLine
  | some path => ⟨.debug, commandTarget, "using configuration", [("path", .plain path)]⟩
  | none => ⟨.debug, commandTarget, "no configuration found, using defaults", []⟩

/-- The configuration at a path; without path, the empty one. -/
def configAt (m : Machine) : Option String → Except CommandFault Config
  | some path => (m.readConfig path).mapError (.unreadableConfig path)
  | none => .ok {}

/-- A configuration, if nothing is wrong with it. -/
def checked (m : Machine) (c : Config) : Except CommandFault Config :=
  match c.fault? m.isDirectory with
  | some fault => .error (.invalidConfig fault)
  | none => .ok c

/-- Load the configuration of a run. -/
def loadConfig (m : Machine) (explicit : Option String) : Task Config :=
  let path? := m.configPath? explicit
  ⟨m.configAt path? >>= m.checked, [configLine path?]⟩

end Machine

end ShellPages
