import ShellPages.Inspection
import ShellPages.Source.Chain

/-!
# Configurations

A configuration says where pages come from, which sources are asked and in which order, and which
inspections a project switches off. All of it is optional: the empty configuration stands for the
pages of the program itself, the standard sources and every inspection.
-/

namespace ShellPages

/-- Which commands a source documents. -/
inductive SourceKind where
  /-- Those the shell implements itself. -/
  | builtin
  /-- All others. -/
  | external
  deriving DecidableEq, Repr, Inhabited

namespace SourceKind

/-- Every kind of source. -/
def all : List SourceKind := [builtin, external]

/-- The name of a kind of source. -/
def name : SourceKind → String
  | builtin => "builtin"
  | external => "external"

/-- The kind of source of the given name. -/
def ofName? (name : String) : Option SourceKind :=
  all.find? fun k => k.name == name

/-- The base of the pages of a source that names none. -/
def base : SourceKind → String
  | builtin => Chain.builtinBase
  | external => Chain.externalBase

/-- The policy of a kind of source. -/
def policy : SourceKind → Policy
  | builtin => .builtin
  | external => .external

end SourceKind

/-- A source of documentation. -/
structure SourceConfig where
  name : String
  kind : SourceKind
  /-- The base of its pages, if it is not that of its kind. -/
  base? : Option String := none
  deriving DecidableEq, Repr, Inhabited

namespace SourceConfig

/-- The base of the pages of a source. -/
def base (s : SourceConfig) : String :=
  s.base?.getD s.kind.base

/-- The source that is described. -/
def toSource (s : SourceConfig) : Source :=
  .pages s.name s.base s.kind.policy

end SourceConfig

/-- Where documentation comes from. -/
structure DocsConfig where
  /-- The directory of the pages, if they are not those of the program itself. -/
  root? : Option String := none
  /-- The sources in the order in which they are asked; none stands for the standard ones. -/
  sources : List SourceConfig := []
  deriving DecidableEq, Repr, Inhabited

/-- A configuration. -/
structure Config where
  version : String := ""
  docs : DocsConfig := {}
  inspections : InspectionSettings := {}
  deriving DecidableEq, Repr, Inhabited

namespace Config

/-- The names of configuration files, in the order in which they are looked for. -/
def fileNames : List String := ["shelldoc.yaml", ".shelldoc.yaml"]

/-- The starting point for a configuration of one's own. -/
def template : String :=
  String.join ([
    "# shelldoc configuration",
    "version: \"1\"",
    "",
    "docs:",
    "  # Directory containing <prefix>/<command>.html pages.",
    "  # Leave unset to use the documentation pack built into shelldoc.",
    "  # root: ./docs",
    "",
    "  # Sources are consulted in this order; the first page found wins.",
    "  sources:",
    "    - name: builtin",
    "      kind: builtin",
    "      prefix: documentation/internal",
    "    - name: external",
    "      kind: external",
    "      prefix: documentation/external",
    "",
    "inspections:",
    "  # Inspection ids or glob patterns to switch off for project runs.",
    "  # Run \x60shelldoc inspections\x60 for the full list.",
    "  disabled: []"].map fun line => line ++ "\n")

/-- The chain of sources that a configuration describes. -/
def chain (c : Config) : Chain :=
  if c.docs.sources.isEmpty then .standard else ⟨c.docs.sources.map SourceConfig.toSource⟩

end Config

end ShellPages
