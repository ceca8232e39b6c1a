import ShellPages.Config
import ShellPages.Inspection
import ShellPages.Json.Written

/-!
# Configurations as data

The names of the fields of a configuration, which are the same in reports and in configuration
files. An inspection is written as its id. Settings need not give any disabled patterns, and only
the name and the kind of a source have to be given.
-/

namespace ShellPages

/-! ## Inspections and settings -/

instance : Written Inspection where
  shape := .choice (Inspection.all.map Inspection.id)
  toJson i := .string i.id
  ofJson? j := do Inspection.ofId? (← j.text?)

instance : Written InspectionSettings where
  shape := .record "InspectionSettings" [("disabled", .defaulted, .list .text)]
  toJson s := .object [("disabled", Written.listToJson s.disabled)]
  ofJson? j := do some { disabled := ← Written.listOrEmpty? "disabled" j }

/-! ## Configurations -/

instance : Written SourceKind where
  shape := .choice (SourceKind.all.map SourceKind.name)
  toJson k := .string k.name
  ofJson? j := do SourceKind.ofName? (← j.text?)

instance : Written SourceConfig where
  shape := .record "SourceConfig"
    [("name", .required, .text), ("kind", .required, Written.shape SourceKind),
     ("prefix", .nullable, .text)]
  toJson s := .object
    [("name", .string s.name), ("kind", Written.toJson s.kind),
     ("prefix", Json.ofOptionalText s.base?)]
  ofJson? j := do
    some {
      name := ← (← j.member? "name").text?
      kind := ← Written.ofJson? (← j.member? "kind")
      base? := ← j.optionalText? "prefix" }

instance : Written DocsConfig where
  shape := .record "DocsConfig"
    [("root", .nullable, .path), ("sources", .defaulted, .list (Written.shape SourceConfig))]
  toJson d := .object
    [("root", Json.ofOptionalText d.root?), ("sources", Written.listToJson d.sources)]
  ofJson? j := do
    some {
      root? := ← j.optionalText? "root"
      sources := ← Written.listOrEmpty? "sources" j }

instance : Written Config where
  shape := .record "Config"
    [("version", .defaulted, .text), ("docs", .defaulted, Written.shape DocsConfig),
     ("inspections", .defaulted, Written.shape InspectionSettings)]
  toJson c := .object
    [("version", .string c.version), ("docs", Written.toJson c.docs),
     ("inspections", Written.toJson c.inspections)]
  ofJson? j := do
    some {
      version := ← Written.memberOr? "version" "" j
      docs := ← Written.memberOr? "docs" {} j
      inspections := ← Written.memberOr? "inspections" {} j }

end ShellPages
