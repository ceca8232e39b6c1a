import ShellPages.Config.Written
import ShellPages.Proofs.Json.Reading
import ShellPages.Report.Written

/-!
# Written values are read back

Constructs, configurations and listings are read back from both of their written forms, whatever
texts and bounds are in them: each part of them fits its shape and is taken for what it was
(`roundTrips_construct`, `roundTrips_config`, `roundTrips_listing`). So are reports as long as their
counts fit 64 bits. With that `read_docText` says what is read from a report on names, and
`written_isReadBack` collects the other forms.
-/

namespace ShellPages

open Json

variable {α : Type}

/-- Both written forms of a value are read as this value. -/
def IsReadBack [Written α] (a : α) : Prop :=
  Written.read α (Written.toJson a).compact = .ok a ∧
    Written.read α (Written.toJson a).pretty = .ok a

theorem RoundTrips.isReadBack [Written α] {a : α} (h : RoundTrips a) : IsReadBack a :=
  ⟨h.read_eq (.inl rfl), h.read_eq (.inr rfl)⟩

/-! ## Constructs -/

theorem roundTrips_kind (k : Kind) : RoundTrips k where
  fits := fits_choice (by cases k <;> decide)
  ofJson?_toJson := by cases k <;> rfl

theorem fits_of_lt_size {n : Nat} (h : n < UInt64.size) : Fits .count (number n) :=
  fits_count (Nat.le_pred_of_lt h)

theorem roundTrips_span (s : Span) : RoundTrips s where
  fits := fits_record (by decide)
    (.given (.inl (fits_of_lt_size s.start.toNat_lt))
      (.given (.inl (fits_of_lt_size s.stop.toNat_lt)) .nil))
  ofJson?_toJson := by
    show some (Span.mk s.start.toNat.toUInt64 s.stop.toNat.toUInt64) = some s
    simp

theorem roundTrips_construct (c : Construct) : RoundTrips c where
  fits := fits_record (by decide)
    (.given (.inl (roundTrips_kind c.kind).fits)
      (.given (.inl (fits_text c.text)) (.given (.inl (roundTrips_span c.span).fits) .nil)))
  ofJson?_toJson := by
    show (do some (Construct.mk (← Written.ofJson? (Written.toJson c.kind)) c.text
      (← Written.ofJson? (Written.toJson c.span)))) = some c
    rw [(roundTrips_kind c.kind).ofJson?_toJson, (roundTrips_span c.span).ofJson?_toJson]
    rfl

/-! ## Configurations -/

theorem fieldFits_ofOptionalText {shape : Data.Shape} (h : ∀ s, Fits shape (string s))
    (s? : Option String) : FieldFits .nullable shape (ofOptionalText s?) := by
  cases s? with
  | none => exact .inr ⟨rfl, rfl⟩
  | some s => exact .inl (h s)

theorem optionalText?_eq {name : String} {j : Json} {s? : Option String}
    (h : j.member? name = some (ofOptionalText s?)) : j.optionalText? name = some s? := by
  rw [optionalText?, h]
  cases s? <;> rfl

theorem roundTrips_sourceKind (k : SourceKind) : RoundTrips k where
  fits := fits_choice (by cases k <;> decide)
  ofJson?_toJson := by cases k <;> rfl

theorem roundTrips_sourceConfig (s : SourceConfig) : RoundTrips s where
  fits := fits_record (by decide)
    (.given (.inl (fits_text s.name)) (.given (.inl (roundTrips_sourceKind s.kind).fits)
      (.given (fieldFits_ofOptionalText fits_text s.base?) .nil)))
  ofJson?_toJson := by
    have hbase : (Written.toJson s).optionalText? "prefix" = some s.base? := optionalText?_eq rfl
    show (do some (SourceConfig.mk s.name (← Written.ofJson? (Written.toJson s.kind))
      (← (Written.toJson s).optionalText? "prefix"))) = some s
    rw [(roundTrips_sourceKind s.kind).ofJson?_toJson, hbase]
    rfl

theorem roundTrips_docsConfig (d : DocsConfig) : RoundTrips d := by
  have hsources : RoundTrips d.sources := .list fun s _ => roundTrips_sourceConfig s
  have hroot : (Written.toJson d).optionalText? "root" = some d.root? := optionalText?_eq rfl
  refine ⟨fits_record (by decide) (.given (fieldFits_ofOptionalText fits_path d.root?)
    (.given (.inl hsources.fits) .nil)), ?_⟩
  show (do some (DocsConfig.mk (← (Written.toJson d).optionalText? "root")
    (← Written.ofJson? (Written.toJson d.sources)))) = some d
  rw [hroot, hsources.ofJson?_toJson]
  rfl

theorem roundTrips_inspectionSettings (s : InspectionSettings) : RoundTrips s := by
  have hdisabled : RoundTrips s.disabled := .list fun pattern _ => roundTrips_string pattern
  refine ⟨fits_record (by decide) (.given (.inl hdisabled.fits) .nil), ?_⟩
  show (do some (InspectionSettings.mk (← Written.ofJson? (Written.toJson s.disabled)))) = some s
  rw [hdisabled.ofJson?_toJson]
  rfl

theorem roundTrips_config (c : Config) : RoundTrips c where
  fits := fits_record (by decide)
    (.given (.inl (fits_text c.version)) (.given (.inl (roundTrips_docsConfig c.docs).fits)
      (.given (.inl (roundTrips_inspectionSettings c.inspections).fits) .nil)))
  ofJson?_toJson := by
    show (do some (Config.mk c.version (← Written.ofJson? (Written.toJson c.docs))
      (← Written.ofJson? (Written.toJson c.inspections)))) = some c
    rw [(roundTrips_docsConfig c.docs).ofJson?_toJson,
      (roundTrips_inspectionSettings c.inspections).ofJson?_toJson]
    rfl

/-! ## Listings -/

theorem roundTrips_listing (l : Listing) : RoundTrips l := by
  have hkeys : RoundTrips l.keys := .list fun key _ => roundTrips_string key
  refine ⟨fits_record (by decide) (.given (.inl (fits_text l.source))
    (.given (.inl (fits_text l.base)) (.given (.inl hkeys.fits) .nil))), ?_⟩
  show (do some (Listing.mk l.source l.base (← Written.ofJson? (Written.toJson l.keys)))) = some l
  rw [hkeys.ofJson?_toJson]
  rfl

/-! ## Reports on inspections -/

theorem roundTrips_inspectionEntry (e : InspectionEntry) : RoundTrips e where
  fits := fits_record (by decide)
    (.given (.inl (fits_text e.id)) (.given (.inl (fits_text e.description)) .nil))
  ofJson?_toJson := rfl

theorem roundTrips_inspectionReport {r : InspectionReport} (h : r.count < UInt64.size) :
    RoundTrips r := by
  have hentries : RoundTrips r.inspections := .list fun e _ => roundTrips_inspectionEntry e
  refine ⟨fits_record (by decide) (.given (.inl (fits_text r.version))
    (.given (.inl (fits_text r.context)) (.given (.inl (fits_of_lt_size h))
      (.given (.inl hentries.fits) .nil)))), ?_⟩
  show (do some (InspectionReport.mk r.version r.context r.count
    (← Written.ofJson? (Written.toJson r.inspections)))) = some r
  rw [hentries.ofJson?_toJson]
  rfl

theorem ofId?_id (i : Inspection) : Inspection.ofId? i.id = some i := by
  cases i <;> rfl

/-- The ids of a report on inspections are those of these inspections. -/
theorem mapM_ofId?_entries (context : String) (list : List Inspection) :
    (InspectionReport.ofInspections context list).inspections.mapM
      (fun e => Inspection.ofId? e.id) = some list := by
  show (list.map fun i => InspectionEntry.mk i.id i.description).mapM
    (fun e => Inspection.ofId? e.id) = some list
  induction list with
  | nil => rfl
  | cons i rest ih =>
    rw [List.map_cons, List.mapM_cons, ofId?_id, ih]
    rfl

/-! ## Reports on names -/

theorem fieldsFit_memberIfSome {name : String} {fields : List (String × Data.Presence × Data.Shape)}
    {members : List (String × Json)} (s? : Option String) (h : FieldsFit fields members) :
    FieldsFit ((name, .nullable, .text) :: fields) (memberIfSome name s? ++ members) := by
  cases s? with
  | none => exact .omitted (by decide) h
  | some s => exact .given (.inl (fits_text s)) h

theorem roundTrips_resolution (r : Resolution) : RoundTrips r where
  fits := by
    have hdocumentation : FieldsFit [("documentation", .nullable, .text)]
        (memberIfSome "documentation" r.documentation ++ []) :=
      fieldsFit_memberIfSome r.documentation .nil
    rw [List.append_nil] at hdocumentation
    exact fits_record (by decide) (.given (.inl (fits_text r.name))
      (.given (.inl (roundTrips_kind r.kind).fits)
        (fieldsFit_memberIfSome r.source hdocumentation)))
  ofJson?_toJson := by
    have hsource : (Written.toJson r).optionalText? "source" = some r.source := by
      rcases r with ⟨name, kind, _ | source, _ | documentation⟩ <;> rfl
    have hdocumentation :
        (Written.toJson r).optionalText? "documentation" = some r.documentation := by
      rcases r with ⟨name, kind, _ | source, _ | documentation⟩ <;> rfl
    show (do some (Resolution.mk r.name (← Written.ofJson? (Written.toJson r.kind))
      (← (Written.toJson r).optionalText? "source")
      (← (Written.toJson r).optionalText? "documentation"))) = some r
    rw [(roundTrips_kind r.kind).ofJson?_toJson, hsource, hdocumentation]
    rfl

theorem roundTrips_docReport {r : DocReport} (hresolved : r.resolved < UInt64.size)
    (hmissing : r.missing < UInt64.size) : RoundTrips r := by
  have hresults : RoundTrips r.results := .list fun r _ => roundTrips_resolution r
  refine ⟨fits_record (by decide) (.given (.inl (fits_text r.version))
    (.given (.inl (fits_of_lt_size hresolved)) (.given (.inl (fits_of_lt_size hmissing))
      (.given (.inl hresults.fits) .nil)))), ?_⟩
  show (do some (DocReport.mk r.version r.resolved r.missing
    (← Written.ofJson? (Written.toJson r.results)))) = some r
  rw [hresults.ofJson?_toJson]
  rfl

/-- **A report on names loses nothing.** Whatever the texts and kinds of its resolutions are, and
whichever of them lack a source or documentation, the report that is read from its text has the same
resolutions in the same order, and counts those with documentation and those without. There are no
more resolutions than fit a count. -/
theorem read_docText (results : List Resolution) (h : results.length < UInt64.size) :
    ∃ report, Written.read DocReport (docText results) = .ok report ∧
      report.version = version ∧ report.results = results ∧
      report.resolved = results.countP (fun r => r.documentation.isSome) ∧
      report.missing = results.countP (fun r => r.documentation.isNone) ∧
      report.resolved + report.missing = results.length := by
  have htotal : results.length =
      (DocReport.ofResults results).resolved + (DocReport.ofResults results).missing := by
    rw [List.length_eq_countP_add_countP Resolution.isFound]
    simp [DocReport.ofResults]
  have hresolved : (DocReport.ofResults results).resolved < UInt64.size := by omega
  have hmissing : (DocReport.ofResults results).missing < UInt64.size := by omega
  refine ⟨DocReport.ofResults results, (roundTrips_docReport hresolved hmissing).isReadBack.2,
    rfl, rfl, rfl, ?_, htotal.symm⟩
  exact List.countP_congr fun r _ => by rw [Resolution.isFound, Option.not_isSome]

/-- A name of a quote, a backslash and control characters that has no documentation, and an empty
name that has an empty one. -/
theorem read_docText_escapes :
    ∃ report, Written.read DocReport (docText
        [⟨"\"\\\n\x00", .operator, some "", none⟩, ⟨"", .command, none, some ""⟩]) = .ok report ∧
      report.results =
        [⟨"\"\\\n\x00", .operator, some "", none⟩, ⟨"", .command, none, some ""⟩] ∧
      report.resolved = 1 ∧ report.missing = 1 := by
  obtain ⟨report, hread, -, hresults, hresolved, hmissing, -⟩ := read_docText
    [⟨"\"\\\n\x00", .operator, some "", none⟩, ⟨"", .command, none, some ""⟩] (by decide)
  exact ⟨report, hread, hresults, hresolved, hmissing⟩

/-! ## Everything else that is written -/

/-- **What is written is read back**, from the compact and from the pretty form: constructs with
any bounds, configurations, listings, and reports on inspections, of which there are no more than
fit a count. The ids in a report lead back to its inspections, in order. -/
theorem written_isReadBack (construct : Construct) (config : Config) (listings : List Listing)
    (context : String) (inspections : List Inspection) (h : inspections.length < UInt64.size) :
    IsReadBack construct ∧ IsReadBack config ∧ IsReadBack listings ∧
      ∃ report, IsReadBack report ∧
        Written.read InspectionReport (inspectionsText context inspections) = .ok report ∧
        report.context = context ∧ report.count = inspections.length ∧
        report.inspections.mapM (fun e => Inspection.ofId? e.id) = some inspections := by
  have hlistings : RoundTrips listings := .list fun l _ => roundTrips_listing l
  have hreport : RoundTrips (InspectionReport.ofInspections context inspections) :=
    roundTrips_inspectionReport h
  exact ⟨(roundTrips_construct construct).isReadBack, (roundTrips_config config).isReadBack,
    hlistings.isReadBack, _, hreport.isReadBack, hreport.isReadBack.2, rfl, rfl,
    mapM_ofId?_entries context inspections⟩

/-- An inverted span up to the last bound, a source without base and one with an empty one, a source
without pages, and a context of a quote. -/
theorem written_isReadBack_extremes :
    IsReadBack (Construct.mk .variable "\t" ⟨18446744073709551615, 0⟩) ∧
      IsReadBack (Config.mk "1" ⟨some "", [⟨"é", .builtin, none⟩, ⟨"", .external, some ""⟩]⟩ {}) ∧
      IsReadBack [Listing.mk "builtin" "/" []] ∧
      ∃ report, IsReadBack report ∧
        Written.read InspectionReport (inspectionsText "\"" [.functionDef, .addShebang]) =
          .ok report ∧
        report.context = "\"" ∧ report.count = 2 ∧
        report.inspections.mapM (fun e => Inspection.ofId? e.id) =
          some [.functionDef, .addShebang] :=
  written_isReadBack _ _ _ "\"" [.functionDef, .addShebang] (by decide)

end ShellPages
