import ShellPages.Command.Arguments
import ShellPages.Command.Task
import ShellPages.Files.Change
import ShellPages.Log.Filter
import ShellPages.Repeats
import ShellPages.Report.Written

/-!
# Running commands

A run does what a request asks for and ends with an outcome.

* Documentation is shown for names that are looked up in the chain of sources of the configuration,
  or the names that the sources know are listed. What the request itself gets wrong is found before
  the configuration is loaded.
* Inspections are listed for tests, which use every one of them whatever is configured, or for a
  project, which uses those that its configuration leaves switched on.
* A configuration to start from is written to a path that leads to nothing yet. The directories on
  the way there are made; they stay when the file cannot be written. No other command changes files.

What a run shows beside its output is the log, as far as the filter lets it through, and after it
the fault, if there is one.
-/

namespace ShellPages

/-! ## Showing documentation -/

namespace DocRequest

/-- Use the pages of a directory, if one is given, instead of those of the configuration. -/
def withDocsDirectory (m : Machine) (c : Config) : Option String → Except CommandFault Config
  | none => .ok c
  | some directory =>
    if m.isDirectory directory then .ok { c with docs.root? := some directory }
    else .error (.noDocsDirectory directory)

/-- The line that warns of a source name that is used again. -/
def repeatedNameLine (name : String) : LogLine :=
  ⟨.warn, commandTarget, "documentation source name is configured more than once",
    [("source", .plain name)]⟩

/-- The pages of each source. -/
def listPages (m : Machine) (color : Bool) (format : ReportFormat) (c : Config) : Answer :=
  { output := format.listings color (c.listings (c.store m)) }

/-- Look up the names. The run succeeds if all of them have documentation. -/
def lookUp (r : DocRequest) (m : Machine) (color : Bool) (format : ReportFormat) (kind : Kind)
    (c : Config) : Task Answer := do
  let found := c.chain.resolveNames (c.store m) kind r.asWritten r.names
  Task.log (Sink.logging.logged found.events)
  pure {
    output := format.doc color found.value
    status := if found.value.all Resolution.isFound then .success else .missing }

/-- Show documentation. -/
def task (r : DocRequest) (m : Machine) (color : Bool) : Task Answer := do
  let format ← Task.require (.unknownFormat r.format) (ReportFormat.ofName? r.format)
  let kind ← Task.require (.unknownKind r.kind) (Kind.parse? r.kind)
  if r.names.isEmpty && !r.list then Task.stop .noNames
  else do
    let loaded ← m.loadConfig r.config
    let config ← Task.ofExcept (withDocsDirectory m loaded r.docsDirectory)
    Task.log ((repeats config.chain.names).map repeatedNameLine)
    if r.list then pure (listPages m color format config)
    else r.lookUp m color format kind config

end DocRequest

/-! ## Listing inspections -/

namespace InspectionsRequest

/-- The inspections of the context with the given name. -/
def enabled (m : Machine) (config : Option String) (context : String) : Task (List Inspection) :=
  if context == "test" then pure (enabledInspections .test)
  else if context == "project" then do
    let c ← m.loadConfig config
    pure (enabledInspections (.project c.inspections))
  else Task.stop (.unknownContext context)

/-- List inspections. -/
def task (r : InspectionsRequest) (m : Machine) (color : Bool) : Task Answer := do
  let format ← Task.require (.unknownFormat r.format) (ReportFormat.ofName? r.format)
  let list ← enabled m r.config r.context
  pure { output := format.inspections color r.context list }

end InspectionsRequest

/-! ## Making a configuration -/

namespace InitRequest

/-- What is printed when the configuration has been written. -/
def nextSteps (path : String) : String :=
  String.join ([
    s!"Created {path}",
    "",
    "Next steps:",
    s!"  1. Edit {path} to point at your documentation pages",
    s!"  2. Run: shelldoc doc echo --config {path}"].map line)

/-- Make the directory of a path. One that is the working directory is there already. -/
def makeParent (m : Machine) (path : String) : Files.Tree.Attempt :=
  match Files.parent? path with
  | none | some "" | some "." => ⟨m.files, none⟩
  | some directory => m.files.makeDirectories m.cwd directory

/-- Write the configuration, if nothing is in its place. -/
def outcome (r : InitRequest) (m : Machine) : Outcome :=
  let stopped (fault : CommandFault) := (Task.stop fault).outcome
  if m.files.leads m.cwd r.output then stopped (.alreadyExists r.output) m.files
  else
    let parent := makeParent m r.output
    match parent.fault? with
    | some fault => stopped (.directoryNotMade fault) parent.tree
    | none =>
      match parent.tree.write m.cwd r.output Config.template.toUTF8 with
      | .error fault => stopped (.notWritten fault) parent.tree
      | .ok files => (pure { output := nextSteps r.output } : Task Answer).outcome files

end InitRequest

/-! ## Runs -/

/-- Run a command. -/
def Command.run (m : Machine) (color : Bool) : Command → Outcome
  | doc request => (request.task m color).outcome m.files
  | inspections request => (request.task m color).outcome m.files
  | init request => request.outcome m

namespace Outcome

/-- The lines of the log that a filter lets through. -/
def shownLog (o : Outcome) (filter : LogFilter) : List String :=
  (o.logs.filter filter.shows).map LogLine.text

/-- What is shown of a fault. -/
def errorText (o : Outcome) : String :=
  String.join (o.errors.map line)

/-- What is shown beside the output. -/
def messages (o : Outcome) (filter : LogFilter) : String :=
  String.join ((o.shownLog filter).map line) ++ o.errorText

end Outcome

end ShellPages
