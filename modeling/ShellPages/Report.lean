import ShellPages.Config
import ShellPages.Source.Summary

/-!
# Reports

What a run tells: the resolutions of the names it was asked for, the inspections that are switched
on, or the pages that each source has.
-/

namespace ShellPages

/-- The version that reports carry. -/
def version : String := "0.1.0"

/-- A report on names that were looked up. -/
structure DocReport where
  version : String
  /-- How many names have documentation. -/
  resolved : Nat
  /-- How many names have none. -/
  missing : Nat
  results : List Resolution
  deriving DecidableEq, Repr, Inhabited

/-- The report on resolutions. -/
def DocReport.ofResults (results : List Resolution) : DocReport where
  version := ShellPages.version
  resolved := results.countP Resolution.isFound
  missing := results.countP fun r => !r.isFound
  results := results

/-- An inspection in a report. -/
structure InspectionEntry where
  id : String
  description : String
  deriving DecidableEq, Repr, Inhabited

/-- A report on the inspections of a context. -/
structure InspectionReport where
  version : String
  context : String
  count : Nat
  inspections : List InspectionEntry
  deriving DecidableEq, Repr, Inhabited

/-- The report on inspections of the context with the given name. -/
def InspectionReport.ofInspections (context : String) (inspections : List Inspection) :
    InspectionReport where
  version := ShellPages.version
  context := context
  count := inspections.length
  inspections := inspections.map fun i => ⟨i.id, i.description⟩

/-- The pages of a source. -/
structure Listing where
  source : String
  base : String
  keys : List String
  deriving DecidableEq, Repr, Inhabited

namespace Config

/-- The sources of a configuration, or the standard ones if it has none. -/
def sources (c : Config) : List SourceConfig :=
  if c.docs.sources.isEmpty then SourceKind.all.map fun kind => ⟨kind.name, kind, none⟩
  else c.docs.sources

/-- The pages of each source. -/
def listings (c : Config) (store : Store) : List Listing :=
  c.sources.map fun s => ⟨s.name, s.base, store.keys s.base⟩

end Config

end ShellPages
