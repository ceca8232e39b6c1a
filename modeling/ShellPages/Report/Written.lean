import ShellPages.Construct
import ShellPages.Json.Written
import ShellPages.Report
import ShellPages.Report.Pretty

/-!
# Reports as data

The written forms of reports, for other programs. A kind is written as its name, a span with its two
bounds, and a construct with its kind, its text and its span, which need not be given. What was not
found is left out of a resolution; it is written neither as nothing nor as an empty text.

Every report can be printed for people or for other programs.
-/

namespace ShellPages

/-! ## Constructs -/

instance : Written Kind where
  shape := .choice (Kind.all.map Kind.name)
  toJson k := .string k.name
  ofJson? j := do Kind.ofName? (← j.text?)

instance : Written Span where
  shape := .record "Span" [("start", .required, .count), ("end", .required, .count)]
  toJson s := .object [("start", .number s.start.toNat), ("end", .number s.stop.toNat)]
  ofJson? j := do
    some ⟨(← (← j.member? "start").count?).toUInt64, (← (← j.member? "end").count?).toUInt64⟩

instance : Written Construct where
  shape := .record "Construct"
    [("kind", .required, Written.shape Kind), ("text", .required, .text),
     ("span", .defaulted, Written.shape Span)]
  toJson c := .object
    [("kind", Written.toJson c.kind), ("text", .string c.text), ("span", Written.toJson c.span)]
  ofJson? j := do
    some {
      kind := ← Written.ofJson? (← j.member? "kind")
      text := ← (← j.member? "text").text?
      span := ← Written.memberOr? "span" {} j }

/-! ## Reports -/

/-- A member that is left out if there is no text. -/
def Json.memberIfSome (name : String) : Option String → List (String × Json)
  | some s => [(name, .string s)]
  | none => []

instance : Written Resolution where
  shape := .record "DocResolution"
    [("name", .required, .text), ("kind", .required, Written.shape Kind),
     ("source", .nullable, .text), ("documentation", .nullable, .text)]
  toJson r := .object
    ([("name", .string r.name), ("kind", Written.toJson r.kind)] ++
      Json.memberIfSome "source" r.source ++ Json.memberIfSome "documentation" r.documentation)
  ofJson? j := do
    some {
      name := ← (← j.member? "name").text?
      kind := ← Written.ofJson? (← j.member? "kind")
      source := ← j.optionalText? "source"
      documentation := ← j.optionalText? "documentation" }

instance : Written DocReport where
  shape := .record "JsonDocReport"
    [("version", .required, .text), ("resolved", .required, .count),
     ("missing", .required, .count), ("results", .required, .list (Written.shape Resolution))]
  toJson r := .object
    [("version", .string r.version), ("resolved", .number r.resolved),
     ("missing", .number r.missing), ("results", Written.listToJson r.results)]
  ofJson? j := do
    some {
      version := ← (← j.member? "version").text?
      resolved := ← (← j.member? "resolved").count?
      missing := ← (← j.member? "missing").count?
      results := ← Written.listOfJson? (← j.member? "results") }

instance : Written InspectionEntry where
  shape := .record "JsonInspection" [("id", .required, .text), ("description", .required, .text)]
  toJson e := .object [("id", .string e.id), ("description", .string e.description)]
  ofJson? j := do
    some ⟨← (← j.member? "id").text?, ← (← j.member? "description").text?⟩

instance : Written InspectionReport where
  shape := .record "JsonInspectionReport"
    [("version", .required, .text), ("context", .required, .text), ("count", .required, .count),
     ("inspections", .required, .list (Written.shape InspectionEntry))]
  toJson r := .object
    [("version", .string r.version), ("context", .string r.context), ("count", .number r.count),
     ("inspections", Written.listToJson r.inspections)]
  ofJson? j := do
    some {
      version := ← (← j.member? "version").text?
      context := ← (← j.member? "context").text?
      count := ← (← j.member? "count").count?
      inspections := ← Written.listOfJson? (← j.member? "inspections") }

instance : Written Listing where
  shape := .record "SourceListing"
    [("source", .required, .text), ("prefix", .required, .text),
     ("keys", .required, .list .text)]
  toJson l := .object
    [("source", .string l.source), ("prefix", .string l.base),
     ("keys", Written.listToJson l.keys)]
  ofJson? j := do
    some {
      source := ← (← j.member? "source").text?
      base := ← (← j.member? "prefix").text?
      keys := ← Written.listOfJson? (← j.member? "keys") }

/-- The text of a report on names. -/
def docText (results : List Resolution) : String :=
  (Written.toJson (DocReport.ofResults results)).pretty

/-- The text of a report on inspections. -/
def inspectionsText (context : String) (inspections : List Inspection) : String :=
  (Written.toJson (InspectionReport.ofInspections context inspections)).pretty

/-- The text of a report on pages. -/
def listingsText (listings : List Listing) : String :=
  (Written.listToJson listings).pretty

/-! ## Formats -/

/-- Whom a report is printed for. -/
inductive ReportFormat where
  /-- People. -/
  | pretty
  /-- Other programs. -/
  | json
  deriving DecidableEq, Repr

namespace ReportFormat

/-- Every format. -/
def all : List ReportFormat := [pretty, json]

/-- The name of a format. -/
def name : ReportFormat → String
  | pretty => "pretty"
  | json => "json"

/-- The format of the given name. -/
def ofName? (name : String) : Option ReportFormat :=
  all.find? fun f => f.name == name

/-- A report on names, as it is printed. -/
def doc (color : Bool) (results : List Resolution) : ReportFormat → String
  | pretty => docPretty color results
  | json => line (docText results)

/-- A report on the inspections of a context, as it is printed. -/
def inspections (color : Bool) (context : String) (list : List Inspection) : ReportFormat → String
  | pretty => inspectionsPretty color context list
  | json => line (inspectionsText context list)

/-- A report on the pages of sources, as it is printed. -/
def listings (color : Bool) (list : List Listing) : ReportFormat → String
  | pretty => listingsPretty color list
  | json => line (listingsText list)

end ReportFormat

end ShellPages
