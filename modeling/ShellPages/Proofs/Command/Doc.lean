import ShellPages.Command.Run
import ShellPages.Proofs.Command.Loading
import ShellPages.Proofs.Files.Following
import ShellPages.Proofs.Resolution

/-!
# How showing documentation ends

A request is refused if its format or kind is unknown, it asks for nothing, no valid configuration
can be loaded, or its directory of pages is no directory (`DocRequest.IsRefused`). Otherwise it is
ready (`exists_isReady`), and then the run has an answer and does not stop any more
(`result_task_eq_ok_iff`). Every answer prints something (`output_answer_ne_empty`), and its status
tells whether all names have documentation (`status_answer_eq_success_iff`). The main statement,
`run_doc_exact`, has the exit codes.
-/

namespace ShellPages

/-- Some source of a configuration documents a name. -/
def Config.Documents (c : Config) (m : Machine) (kind : Kind) (name : String) : Prop :=
  ∃ s ∈ c.askedSources, ∃ text, s.Documents (c.store m) kind name text

/-- A name is found if some source documents it. -/
theorem Config.isFound_resolveName_iff {c : Config} {m : Machine} {kind : Kind}
    {asWritten : Option String} {name : String} :
    (c.chain.resolveName (c.store m) kind asWritten name).value.isFound ↔
      c.Documents m kind name := by
  rw [value_resolveName, Resolution.isFound, Option.isSome_map, Option.isSome_iff_ne_none, ne_eq,
    firstText?_eq_none_iff]
  simp only [Documents, not_forall, not_not, exists_prop]

theorem ReportFormat.ofName?_eq_some_iff {name : String} {format : ReportFormat} :
    ofName? name = some format ↔ name = format.name := by
  constructor
  · intro h
    have hname := List.find?_some h
    exact (eq_of_beq hname).symm
  · rintro rfl
    cases format <;> rfl

/-! ## What is printed -/

theorem line_ne_empty (text : String) : line text ≠ "" := by
  simp [line, String.append_eq_empty_iff]

theorem Resolution.pretty_ne_empty (paint : Painter) (r : Resolution) : r.pretty paint ≠ "" := by
  rw [pretty]
  split
  · simp [String.append_eq_empty_iff, line_ne_empty]
  · exact line_ne_empty _

theorem Listing.pretty_ne_empty (paint : Painter) (l : Listing) : l.pretty paint ≠ "" := by
  simp [pretty, String.append_eq_empty_iff, line_ne_empty]

/-- A report on names prints something, in either format. -/
theorem ReportFormat.doc_ne_empty (format : ReportFormat) (color : Bool) {results : List Resolution}
    (h : results ≠ []) : format.doc color results ≠ "" := by
  obtain ⟨r, rest, rfl⟩ := List.exists_cons_of_ne_nil h
  cases format with
  | json => exact line_ne_empty _
  | pretty =>
    rw [doc, docPretty, docPaintedBy]
    cases rest with
    | nil => simp [r.pretty_ne_empty (Style.paint color)]
    | cons next rest =>
      simp [String.append_eq_empty_iff, r.pretty_ne_empty (Style.paint color)]

/-- A report on the pages of sources prints something, in either format. -/
theorem ReportFormat.listings_ne_empty (format : ReportFormat) (color : Bool)
    {listings : List Listing} (h : listings ≠ []) : format.listings color listings ≠ "" := by
  obtain ⟨l, rest, rfl⟩ := List.exists_cons_of_ne_nil h
  cases format with
  | json => exact line_ne_empty _
  | pretty =>
    rw [ReportFormat.listings, listingsPretty, listingsPaintedBy]
    simp [String.append_eq_empty_iff, l.pretty_ne_empty (Style.paint color)]

/-- Every configuration has sources whose pages can be listed. -/
theorem Config.listings_ne_nil (c : Config) (store : Store) : c.listings store ≠ [] := by
  rw [listings, Config.sources, ne_eq, List.map_eq_nil_iff]
  split
  · simp [SourceKind.all]
  · next h => simpa using h

namespace DocRequest

/-! ## Requests that are refused -/

/-- What keeps a request from being answered. -/
inductive IsRefused (r : DocRequest) (m : Machine) : Prop
  | format (hpretty : r.format ≠ "pretty") (hjson : r.format ≠ "json")
  | kind (h : Kind.parse? r.kind = none)
  | names (hnames : r.names = []) (hlist : ¬r.list)
  | config (h : ∀ c, ¬m.Loads r.config c)
  | directory {path : String} (hpath : r.docsDirectory = some path) (h : ¬m.isDirectory path)

/-- What a request needs to be answered. -/
structure IsReady (r : DocRequest) (m : Machine) (format : ReportFormat) (kind : Kind)
    (c : Config) : Prop where
  format : r.format = format.name
  kind : Kind.parse? r.kind = some kind
  names : r.names ≠ [] ∨ r.list
  config : m.Loads r.config c
  directory : ∀ path, r.docsDirectory = some path → m.isDirectory path

variable {r : DocRequest} {m : Machine}

theorem IsReady.not_isRefused {format : ReportFormat} {kind : Kind} {c : Config}
    (hready : r.IsReady m format kind c) : ¬r.IsRefused m := by
  intro h
  cases h with
  | format hpretty hjson =>
    cases format with
    | pretty => exact hpretty hready.format
    | json => exact hjson hready.format
  | kind h => exact absurd hready.kind (by simp [h])
  | names hnames hlist => exact hready.names.elim (absurd hnames) hlist
  | config h => exact h c hready.config
  | directory hpath h => exact h (hready.directory _ hpath)

/-- A request that is not refused is ready. -/
theorem exists_isReady (h : ¬r.IsRefused m) : ∃ format kind c, r.IsReady m format kind c := by
  obtain ⟨format, hformat⟩ : ∃ format : ReportFormat, r.format = format.name := by
    by_cases hpretty : r.format = "pretty"
    · exact ⟨.pretty, hpretty⟩
    · by_cases hjson : r.format = "json"
      · exact ⟨.json, hjson⟩
      · exact absurd (.format hpretty hjson) h
  obtain ⟨kind, hkind⟩ := Option.ne_none_iff_exists'.1 fun hnone => h (.kind hnone)
  obtain ⟨c, hconfig⟩ : ∃ c, m.Loads r.config c := by
    by_contra hnone
    exact h (.config fun c hc => hnone ⟨c, hc⟩)
  have hnames : r.names ≠ [] ∨ r.list := by
    by_contra hnone
    obtain ⟨hnames, hlist⟩ := not_or.1 hnone
    exact h (.names (not_not.1 hnames) hlist)
  refine ⟨format, kind, c, hformat, hkind, hnames, hconfig, fun path hpath => ?_⟩
  by_contra hdirectory
  exact h (.directory hpath hdirectory)

/-! ## Answers -/

/-- A configuration with the pages of the directory that a request names, if it names one. -/
def configured (r : DocRequest) (c : Config) : Config :=
  { c with docs.root? := r.docsDirectory <|> c.docs.root? }

/-- The answer to a request that is not refused. -/
def answer (r : DocRequest) (m : Machine) (color : Bool) (format : ReportFormat) (kind : Kind)
    (c : Config) : Answer :=
  if r.list then listPages m color format c
  else
    let found := (c.chain.resolveNames (c.store m) kind r.asWritten r.names).value
    { output := format.doc color found
      status := if found.all Resolution.isFound then .success else .missing }

variable {color : Bool} {format : ReportFormat} {kind : Kind} {c : Config} {a : Answer}

theorem withDocsDirectory_eq_ok_iff {used : Config} :
    withDocsDirectory m c r.docsDirectory = .ok used ↔
      (∀ path, r.docsDirectory = some path → m.isDirectory path) ∧ used = r.configured c := by
  rw [configured]
  cases r.docsDirectory with
  | none =>
    rw [withDocsDirectory, Except.ok.injEq, eq_comm]
    simp
  | some path =>
    rw [withDocsDirectory]
    by_cases hdirectory : m.isDirectory path
    · rw [if_pos hdirectory, Except.ok.injEq, eq_comm]
      simp [hdirectory]
    · rw [if_neg hdirectory]
      simp [hdirectory]

/-- Once the configuration is there, nothing stops a run. -/
theorem result_listed_or_lookUp :
    (if r.list then pure (listPages m color format c)
      else r.lookUp m color format kind c : Task Answer).result =
      .ok (r.answer m color format kind c) := by
  rw [answer]
  split <;> rfl

/-- A run has an answer if the request is ready, and it is this one. -/
theorem result_task_eq_ok_iff :
    (r.task m color).result = .ok a ↔ ∃ format kind c, r.IsReady m format kind c ∧
      a = r.answer m color format kind (r.configured c) := by
  have hnames : (r.names.isEmpty && !r.list) = true ↔ ¬(r.names ≠ [] ∨ r.list) := by
    simp
  simp only [task, Task.result_bind_eq_ok_iff, Task.result_require_eq_ok_iff,
    ReportFormat.ofName?_eq_some_iff]
  constructor
  · rintro ⟨format, hformat, kind, hkind, h⟩
    split at h
    · cases h
    · next hasks =>
      simp only [Task.result_bind_eq_ok_iff, Task.result_log_bind,
        Machine.result_loadConfig_eq_ok_iff] at h
      obtain ⟨c, hconfig, used, hused, h⟩ := h
      obtain ⟨hdirectory, rfl⟩ := withDocsDirectory_eq_ok_iff.1 hused
      rw [result_listed_or_lookUp, Except.ok.injEq] at h
      have hready : r.IsReady m format kind c :=
        ⟨hformat, hkind, not_not.1 (mt hnames.2 hasks), hconfig, hdirectory⟩
      exact ⟨format, kind, c, hready, h.symm⟩
  · rintro ⟨format, kind, c, hready, rfl⟩
    refine ⟨format, hready.format, kind, hready.kind, ?_⟩
    rw [if_neg fun h => hnames.1 h hready.names]
    simp only [Task.result_bind_eq_ok_iff, Task.result_log_bind,
      Machine.result_loadConfig_eq_ok_iff]
    exact ⟨c, hready.config, r.configured c,
      withDocsDirectory_eq_ok_iff.2 ⟨hready.directory, rfl⟩, result_listed_or_lookUp⟩

theorem run_of_isReady (color : Bool) (h : r.IsReady m format kind c) :
    (Command.run m color (.doc r)).status = (r.answer m color format kind (r.configured c)).status ∧
      (Command.run m color (.doc r)).output =
        (r.answer m color format kind (r.configured c)).output := by
  have hresult : (r.task m color).result = .ok (r.answer m color format kind (r.configured c)) :=
    result_task_eq_ok_iff.2 ⟨format, kind, c, h, rfl⟩
  rw [Command.run, Task.outcome, hresult]
  exact ⟨rfl, rfl⟩

theorem run_of_isRefused (color : Bool) (h : r.IsRefused m) :
    (Command.run m color (.doc r)).status = .fault ∧
      (Command.run m color (.doc r)).output = "" := by
  rw [Command.run, Task.outcome]
  cases hresult : (r.task m color).result with
  | error fault => exact ⟨rfl, rfl⟩
  | ok a =>
    obtain ⟨format, kind, c, hready, -⟩ := result_task_eq_ok_iff.1 hresult
    exact absurd h hready.not_isRefused

theorem status_answer_eq_success_iff :
    (r.answer m color format kind c).status = .success ↔
      r.list ∨ ∀ name ∈ r.names, c.Documents m kind name := by
  rw [answer]
  by_cases hlist : r.list
  · simp [hlist, listPages]
  · simp [hlist, Config.value_resolveNames, Config.isFound_resolveName_iff]

theorem status_answer_eq_missing_iff :
    (r.answer m color format kind c).status = .missing ↔
      ¬r.list ∧ ∃ name ∈ r.names, ¬c.Documents m kind name := by
  rw [answer]
  by_cases hlist : r.list
  · simp [hlist, listPages]
  · simp [hlist, Config.value_resolveNames, Config.isFound_resolveName_iff]

theorem status_answer_ne_fault : (r.answer m color format kind c).status ≠ .fault := by
  rw [answer]
  split
  · exact ExitStatus.noConfusion
  · dsimp only
    split <;> exact ExitStatus.noConfusion

theorem output_answer_ne_empty (h : r.names ≠ [] ∨ r.list) :
    (r.answer m color format kind c).output ≠ "" := by
  rw [answer]
  split
  · exact format.listings_ne_empty color (c.listings_ne_nil (c.store m))
  · next hlist =>
    refine format.doc_ne_empty color ?_
    rw [Config.value_resolveNames, ne_eq, List.map_eq_nil_iff]
    exact h.resolve_right hlist

/-! ## The choice of a format -/

/-- A ready request is ready in every format. -/
theorem IsReady.withFormat (h : r.IsReady m format kind c) (other : ReportFormat) :
    ({ r with format := other.name } : DocRequest).IsReady m other kind c :=
  ⟨rfl, h.kind, h.names, h.config, h.directory⟩

theorem status_answer_withFormat (other : ReportFormat) :
    (({ r with format := other.name } : DocRequest).answer m color other kind c).status =
      (r.answer m color format kind c).status := by
  rw [answer, answer]
  split <;> rfl

/-- Runs in two formats end in the same way. -/
theorem status_run_withFormat (r : DocRequest) (m : Machine) (color : Bool)
    (format other : ReportFormat) :
    (Command.run m color (.doc { r with format := format.name })).status =
      (Command.run m color (.doc { r with format := other.name })).status := by
  by_cases h : ({ r with format := format.name } : DocRequest).IsRefused m
  · have hother : ({ r with format := other.name } : DocRequest).IsRefused m := by
      by_contra hnone
      obtain ⟨_, kind, c, hready⟩ := exists_isReady hnone
      exact (hready.withFormat format).not_isRefused h
    rw [(run_of_isRefused color h).1, (run_of_isRefused color hother).1]
  · obtain ⟨_, kind, c, hready⟩ := exists_isReady h
    have hother := hready.withFormat other
    rw [(run_of_isReady color hready).1, (run_of_isReady color hother).1]
    exact (status_answer_withFormat other).symm

end DocRequest

/-- The code tells how a run ended. -/
theorem ExitStatus.code_eq_iff (s : ExitStatus) :
    (s.code = 0 ↔ s = .success) ∧ (s.code = 1 ↔ s = .missing) ∧ (s.code = 2 ↔ s = .fault) := by
  cases s <;> decide

open DocRequest in
/-- **How showing documentation ends.** A run fails with code 2 if the request is refused, and
then, and only then, it prints nothing. Otherwise there is a configuration to be used, and the code
is 0 if pages are listed or every name has documentation in it, and 1 if names are looked up and
one of them has none. The format makes no difference to the code. -/
theorem Command.run_doc_exact (r : DocRequest) (m : Machine) (color : Bool) :
    ((run m color (.doc r)).status.code = 2 ↔ r.IsRefused m) ∧
    ((run m color (.doc r)).output = "" ↔ r.IsRefused m) ∧
    (¬r.IsRefused m → ∃ kind c, Kind.parse? r.kind = some kind ∧ m.Loads r.config c ∧
      ((run m color (.doc r)).status.code = 0 ↔
        r.list ∨ ∀ name ∈ r.names, (r.configured c).Documents m kind name) ∧
      ((run m color (.doc r)).status.code = 1 ↔
        ¬r.list ∧ ∃ name ∈ r.names, ¬(r.configured c).Documents m kind name)) ∧
    ∀ format other : ReportFormat,
      (run m color (.doc { r with format := format.name })).status.code =
        (run m color (.doc { r with format := other.name })).status.code := by
  obtain ⟨hzero, hone, htwo⟩ := ExitStatus.code_eq_iff (run m color (.doc r)).status
  rw [hzero, hone, htwo]
  have hformats (format other : ReportFormat) := congrArg ExitStatus.code
    (status_run_withFormat r m color format other)
  by_cases h : r.IsRefused m
  · obtain ⟨hstatus, houtput⟩ := run_of_isRefused color h
    exact ⟨iff_of_true hstatus h, iff_of_true houtput h, fun hnot => absurd h hnot, hformats⟩
  · obtain ⟨format, kind, c, hready⟩ := exists_isReady h
    obtain ⟨hstatus, houtput⟩ := run_of_isReady color hready
    rw [hstatus, houtput]
    exact ⟨iff_of_false status_answer_ne_fault h,
      iff_of_false (output_answer_ne_empty hready.names) h,
      fun _ => ⟨kind, c, hready.kind, hready.config, status_answer_eq_success_iff,
        status_answer_eq_missing_iff⟩, hformats⟩

/-- Without files, a run uses the empty configuration. -/
theorem Machine.loads_of_no_files : ({} : Machine).Loads none {} := by
  refine ⟨.default ?_, by simp, by simp, by simp⟩
  rw [discover, List.find?_eq_none]
  intro path _ hfile
  obtain ⟨bytes, hbytes⟩ := Option.isSome_iff_exists.1 hfile
  obtain ⟨place, -, hplace⟩ := Files.Tree.file?_eq_some_iff.1 hbytes
  cases place <;> cases hplace

/-- Looking up a keyword, which no source documents; listing pages; and a kind that is unknown. -/
theorem Command.run_doc_codes :
    (run {} false (.doc { names := ["if"], kind := "keyword" })).status.code = 1 ∧
      (run {} false (.doc { kind := "keyword", list := true })).status.code = 0 ∧
      (run {} false (.doc { names := ["if"], kind := "word" })).status.code = 2 := by
  refine ⟨?_, ?_, (run_doc_exact _ _ _).1.2 (.kind (by decide))⟩
  · have hready : ({ names := ["if"], kind := "keyword" } : DocRequest).IsReady {} .pretty
        .keyword {} := ⟨rfl, by decide, .inl (by simp), Machine.loads_of_no_files, by simp⟩
    obtain ⟨kind, c, hkind, -, -, hone⟩ := (run_doc_exact _ _ false).2.2.1 hready.not_isRefused
    refine hone.2 ⟨by simp, "if", by simp, ?_⟩
    rintro ⟨s, -, text, hdoc⟩
    cases hkind.symm.trans hready.kind
    cases hdoc.command
  · have hready : ({ kind := "keyword", list := true } : DocRequest).IsReady {} .pretty
        .keyword {} := ⟨rfl, by decide, .inr rfl, Machine.loads_of_no_files, by simp⟩
    obtain ⟨kind, c, -, -, hzero, -⟩ := (run_doc_exact _ _ false).2.2.1 hready.not_isRefused
    exact hzero.2 (.inl rfl)

end ShellPages
