import ShellPages.Report.Pretty

/-!
# Usage

How a command line ends that makes no request, and what its user is told then.
-/

namespace ShellPages

/-- How a command line ends without a request. -/
inductive UsageEnd where
  | help
  | version
  /-- There is nothing on the command line. -/
  | nothingGiven
  | noCommand
  | unknownCommand
  | unknownArgument
  /-- An option is given twice. -/
  | repeatedOption
  /-- An option that takes no value has one. -/
  | unwantedValue
  /-- The value of an option is missing or empty. -/
  | unusableValue
  deriving DecidableEq, Repr

/-- The exit code of a run that ends so. -/
def UsageEnd.exitCode : UsageEnd → Nat
  | help | version => 0
  | _ => 2

/-- A summary of the commands. -/
def usageText : String :=
  String.join ([
    "Usage: shelldoc [--verbose] <command> [arguments]",
    "",
    "  doc, show    Show documentation for one or more names",
    "  inspections  List the inspections enabled for a context",
    "  init         Create a new shelldoc.yaml from the template"].map line)

/-- What is printed when the version is asked for. -/
def versionText : String := line s!"shelldoc {version}"

namespace UsageEnd

/-- Whether a command line asks for what it ends with. -/
def isWanted : UsageEnd → Bool
  | help | version => true
  | _ => false

/-- What is wrong with a command line, in a word. -/
def reason? : UsageEnd → Option String
  | help | version | nothingGiven => none
  | noCommand => some "a command is missing"
  | unknownCommand => some "there is no such command"
  | unknownArgument => some "an argument is unknown"
  | repeatedOption => some "an option is given twice"
  | unwantedValue => some "an option that takes no value has one"
  | unusableValue => some "the value of an option is missing or empty"

/-- What is told to the user. -/
def text : UsageEnd → String
  | version => versionText
  | e => String.join (e.reason?.toList.map fun reason => line s!"error: {reason}") ++ usageText

end UsageEnd

end ShellPages
