import ShellPages.Proofs.Command.Doc
import ShellPages.Proofs.Config.Sources

/-!
# Runs that end alike

Two runs end alike if they have the same exit code and print the same (`Outcome.EndsLike`), which is
so if they have the same answers (`Task.endsLike_of_results`). The answer to a request for
documentation depends on the chain of the configuration and on a part of the store: on the keys
below the bases of the sources if pages are listed, and otherwise on the pages that are looked up
(`DocRequest.answer_congr`). So it is enough to compare the configurations that two runs load
(`Machine.LoadAlike`), for showing documentation (`endsLike_doc`) as for listing inspections
(`endsLike_inspections`).
-/

namespace ShellPages

/-! ## Outcomes -/

/-- Two runs end alike: they have the same exit code, and they print the same. -/
structure Outcome.EndsLike (o other : Outcome) : Prop where
  code : o.status.code = other.status.code
  output : o.output = other.output

/-- Tasks with the same answers end alike, whatever stops them. -/
theorem Task.endsLike_of_results {x y : Task Answer}
    (h : ∀ answer, x.result = .ok answer ↔ y.result = .ok answer) (files other : Files.Tree) :
    (x.outcome files).EndsLike (y.outcome other) := by
  rw [outcome, outcome]
  cases hx : x.result with
  | ok answer =>
    rw [(h answer).1 hx]
    exact ⟨rfl, rfl⟩
  | error fault =>
    cases hy : y.result with
    | ok answer =>
      rw [(h answer).2 hy] at hx
      cases hx
    | error other => exact ⟨rfl, rfl⟩

/-! ## What answers depend on -/

namespace DocRequest

/-- A request lists the pages below a base. -/
def ListsBelow (r : DocRequest) (c : Config) (base : String) : Prop :=
  r.list ∧ ∃ s ∈ c.askedSources, base = s.base

/-- A request looks up a page: that of one of its names, which are those of commands, below the base
of a source that answers for this name. -/
def LooksUp (r : DocRequest) (c : Config) (page : String) : Prop :=
  ¬r.list ∧ Kind.parse? r.kind = some .command ∧
    ∃ s ∈ c.askedSources, ∃ name ∈ r.names, isValidKey (Text.trim name) ∧
      (s.kind = .builtin ↔ isBuiltinCommand (Text.trim name)) ∧
      page = s.base ++ "/" ++ Text.trim name ++ ".html"

/-- Two stores are alike to a request: they have the same keys where it lists pages, and the same
pages where it looks them up. -/
structure SeesAlike (r : DocRequest) (c : Config) (store other : Store) : Prop where
  keys : ∀ base, r.ListsBelow c base → store.keys base = other.keys base
  pages : ∀ page, r.LooksUp c page → store.find? page = other.find? page

theorem SeesAlike.refl (r : DocRequest) (c : Config) (store : Store) : r.SeesAlike c store store :=
  ⟨fun _ _ => rfl, fun _ _ => rfl⟩

end DocRequest

/-- A source has the same text for a name in two stores with the same page for it. -/
theorem SourceConfig.text?_congr {s : SourceConfig} {store other : Store} {kind : Kind}
    {name : String} {asWritten : Option Construct}
    (h : kind = .command → isValidKey (Text.trim name) →
      (s.kind = .builtin ↔ isBuiltinCommand (Text.trim name)) →
      store.find? (s.base ++ "/" ++ Text.trim name ++ ".html") =
        other.find? (s.base ++ "/" ++ Text.trim name ++ ".html")) :
    s.toSource.text? store (.ofText kind name) asWritten =
      s.toSource.text? other (.ofText kind name) asWritten := by
  refine Option.ext fun text => ?_
  rw [text?_toSource, text?_toSource]
  constructor
  · rintro ⟨hcommand, hname, hshared, hplain, hbase, hheld⟩
    exact ⟨hcommand, hname, hshared, hplain, hbase, h hcommand hplain hshared ▸ hheld⟩
  · rintro ⟨hcommand, hname, hshared, hplain, hbase, hheld⟩
    exact ⟨hcommand, hname, hshared, hplain, hbase, (h hcommand hplain hshared).symm ▸ hheld⟩

namespace Config

variable {c other : Config} {store otherStore : Store}

/-- What is listed for a source of pages. -/
def listed? (store : Store) : Source → Option Listing
  | .pages name base policy => some ⟨name, base, (Source.pages name base policy).keys store⟩
  | .fixed .. | .nested _ => none

/-- What is listed can be told from the chain. -/
theorem listings_eq_filterMap (c : Config) (store : Store) :
    c.listings store = c.chain.sources.filterMap (listed? store) := by
  rw [listings_eq_map, sources_chain, List.filterMap_map, ← List.filterMap_eq_map]
  rfl

/-- The listings of two configurations with the same chain are the same if the sources have the same
keys. -/
theorem listings_congr (hchain : c.chain = other.chain)
    (hkeys : ∀ s ∈ c.askedSources, store.keys s.base = otherStore.keys s.base) :
    c.listings store = other.listings otherStore := by
  calc c.listings store = c.listings otherStore := by
        rw [listings_eq_map, listings_eq_map]
        refine List.map_congr_left fun s hs => ?_
        rw [listingOf, listingOf, hkeys s hs]
    _ = other.listings otherStore := by
        rw [listings_eq_filterMap, listings_eq_filterMap, hchain]

/-- Names resolve to the same in two configurations with the same chain if the sources have the same
texts for them. -/
theorem value_resolveNames_congr (hchain : c.chain = other.chain) {kind : Kind}
    {asWritten : Option String} {names : List String}
    (htexts : ∀ name ∈ names, ∀ s ∈ c.askedSources,
      textIn? store kind asWritten name s = textIn? otherStore kind asWritten name s) :
    (c.chain.resolveNames store kind asWritten names).value =
      (other.chain.resolveNames otherStore kind asWritten names).value := by
  rw [← hchain, value_resolveNames, value_resolveNames]
  refine List.map_congr_left fun name hname => ?_
  have hfirst : c.firstText? store kind asWritten name =
      c.firstText? otherStore kind asWritten name := by
    rw [firstText?, firstText?, ← List.head?_filterMap, ← List.head?_filterMap]
    refine congrArg List.head? (List.filterMap_congr fun s hs => ?_)
    rw [htexts name hname s hs]
  rw [value_resolveName, value_resolveName, hfirst]

end Config

/-- **What an answer depends on**: the chain of the configuration, and the part of the store that
the request sees. -/
theorem DocRequest.answer_congr {r : DocRequest} {m n : Machine} {c d : Config}
    (hchain : c.chain = d.chain) (hsees : r.SeesAlike c (c.store m) (d.store n)) (color : Bool)
    (format : ReportFormat) {kind : Kind} (hkind : Kind.parse? r.kind = some kind) :
    r.answer m color format kind c = r.answer n color format kind d := by
  rw [answer, answer]
  by_cases hlist : r.list
  · rw [if_pos hlist, if_pos hlist, listPages, listPages,
      Config.listings_congr hchain fun s hs => hsees.keys s.base ⟨hlist, s, hs, rfl⟩]
  · have htexts : ∀ name ∈ r.names, ∀ s ∈ c.askedSources,
        Config.textIn? (c.store m) kind r.asWritten name s =
          Config.textIn? (d.store n) kind r.asWritten name s :=
      fun name hname s hs => SourceConfig.text?_congr fun hcommand hplain hshared =>
        hsees.pages _ ⟨hlist, hcommand ▸ hkind, s, hs, name, hname, hplain, hshared, rfl⟩
    rw [if_neg hlist, if_neg hlist, Config.value_resolveNames_congr hchain htexts]

/-! ## Runs of commands -/

/-- On two machines the same configurations are loaded, but for a relation between them. -/
structure Machine.LoadAlike (R : Config → Config → Prop) (m : Machine) (explicit : Option String)
    (n : Machine) (otherExplicit : Option String) : Prop where
  left : ∀ c, m.Loads explicit c → ∃ d, n.Loads otherExplicit d ∧ R c d
  right : ∀ d, n.Loads otherExplicit d → ∃ c, m.Loads explicit c ∧ R c d

section Runs

variable {R : Config → Config → Prop} {m n : Machine} {explicit : Option String}

/-- **Showing documentation ends alike** if the configurations that are loaded have the same chain,
and stores that are alike to the request, with the directories of pages that are given. -/
theorem Command.endsLike_doc {r : DocRequest} (directory : Option String)
    (hload : m.LoadAlike R r.config n explicit)
    (hdirectory : (∀ path, r.docsDirectory = some path → m.isDirectory path) ↔
      ∀ path, directory = some path → n.isDirectory path)
    (halike : ∀ c d, R c d → let s := { r with config := explicit, docsDirectory := directory }
      (r.configured c).chain = (s.configured d).chain ∧
        r.SeesAlike (r.configured c) ((r.configured c).store m) ((s.configured d).store n))
    (color : Bool) :
    (run m color (.doc r)).EndsLike
      (run n color (.doc { r with config := explicit, docsDirectory := directory })) := by
  refine Task.endsLike_of_results (fun a => ?_) _ _
  have hanswer : ∀ c d, R c d → ∀ format kind, Kind.parse? r.kind = some kind → _ :=
    fun c d hR format kind hkind =>
      DocRequest.answer_congr (halike c d hR).1 (halike c d hR).2 color format hkind
  rw [DocRequest.result_task_eq_ok_iff, DocRequest.result_task_eq_ok_iff]
  constructor
  · rintro ⟨format, kind, c, hready, rfl⟩
    obtain ⟨d, hd, hR⟩ := hload.left c hready.config
    exact ⟨format, kind, d,
      ⟨hready.format, hready.kind, hready.names, hd, hdirectory.1 hready.directory⟩,
      hanswer c d hR format kind hready.kind⟩
  · rintro ⟨format, kind, d, hready, rfl⟩
    obtain ⟨c, hc, hR⟩ := hload.right d hready.config
    exact ⟨format, kind, c,
      ⟨hready.format, hready.kind, hready.names, hc, hdirectory.2 hready.directory⟩,
      (hanswer c d hR format kind hready.kind).symm⟩

/-- The inspections of a test are those of the program; the ones of a project depend on what its
configuration says of them. -/
theorem InspectionsRequest.result_enabled_eq_ok_iff {context : String} {list : List Inspection} :
    (enabled m explicit context).result = .ok list ↔
      context = "test" ∧ list = enabledInspections .test ∨
      context = "project" ∧
        ∃ c, m.Loads explicit c ∧ list = enabledInspections (.project c.inspections) := by
  rw [enabled]
  by_cases htest : context = "test"
  · subst htest
    simp [pure, eq_comm]
  by_cases hproject : context = "project"
  · subst hproject
    simp only [beq_iff_eq, htest, if_false, if_true, false_and, true_and, false_or,
      Task.result_bind_eq_ok_iff, Machine.result_loadConfig_eq_ok_iff]
    simp [pure, eq_comm]
  · simp [htest, hproject, Task.stop]

/-- **Listing inspections ends alike** if the configurations that are loaded say the same of
inspections. -/
theorem Command.endsLike_inspections {r : InspectionsRequest}
    (hload : m.LoadAlike R r.config n explicit)
    (hinspections : ∀ c d, R c d → c.inspections = d.inspections) (color : Bool) :
    (run m color (.inspections r)).EndsLike
      (run n color (.inspections { r with config := explicit })) := by
  have henabled : ∀ list,
      (InspectionsRequest.enabled m r.config r.context).result = .ok list ↔
        (InspectionsRequest.enabled n explicit r.context).result = .ok list := by
    intro list
    rw [InspectionsRequest.result_enabled_eq_ok_iff, InspectionsRequest.result_enabled_eq_ok_iff]
    refine or_congr_right (and_congr_right fun _ => ⟨?_, ?_⟩)
    · rintro ⟨c, hc, rfl⟩
      obtain ⟨d, hd, hR⟩ := hload.left c hc
      exact ⟨d, hd, by rw [hinspections c d hR]⟩
    · rintro ⟨d, hd, rfl⟩
      obtain ⟨c, hc, hR⟩ := hload.right d hd
      exact ⟨c, hc, by rw [hinspections c d hR]⟩
  refine Task.endsLike_of_results (fun a => ?_) _ _
  simp only [InspectionsRequest.task, Task.result_bind_eq_ok_iff, henabled]

end Runs

end ShellPages
