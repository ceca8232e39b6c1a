import ShellPages.Proofs.Command.Alike
import ShellPages.Proofs.Config.Located
import ShellPages.Proofs.Page.Directory

/-!
# Naming the configuration that is found

A configuration in the working directory is found by its path from the root directory, and it can be
named by its name alone. Both lead to the same file (`Machine.holds_found_iff`), but a relative root
is meant from the working directory in the one case and from the empty path in the other. These are
the same directories with the same pages, as long as the longer paths are not too long
(`DocRequest.seesAlike_found`). So it makes no difference to a run whether the configuration is
found or named: `Command.run_named`. The one exception is the empty root, which stands for the
working directory if the configuration is found, and for nothing if it is named
(`Command.empty_root_named`).
-/

namespace ShellPages

open Files Page

/-- The path of a configuration in the working directory. -/
def Machine.ownPath (m : Machine) : String :=
  join m.cwdPath Config.fileName

/-- The paths below the root of a configuration that a request leads to are not too long for file
paths. -/
structure DocRequest.InReach (r : DocRequest) (m : Machine) (c : Config) : Prop where
  bases : ∀ base place, r.ListsBelow c base → normalize? base = some place → c.reaches m place
  pages : ∀ page place, r.LooksUp c page → normalize? page = some place → c.reaches m place

/-- A machine with a configuration in the working directory, which is found there. -/
structure Machine.HasOwn (m : Machine) : Prop extends m.IsProper where
  file : ∃ bytes, m.files.get? (m.cwd ++ [Config.fileName]) = some (.file bytes)
  short : m.ownPath.utf8ByteSize ≤ Tree.maxPath

/-- A root that is not empty and, if it is relative, not too long for a path with that of the
working directory before it. -/
structure Machine.IsFirmRoot (m : Machine) (root : String) : Prop where
  ne_empty : root ≠ ""
  short : ¬isAbsolute root → (join m.cwdPath root).utf8ByteSize ≤ Tree.maxPath

variable {m : Machine} {held : Config} {root : String}

/-- The path of the working directory goes without saying. -/
theorem Machine.IsProper.follow_join_cwdPath (hm : m.IsProper) {path : String} (hpath : path ≠ "")
    (hshort : ¬isAbsolute path → (join m.cwdPath path).utf8ByteSize ≤ Tree.maxPath) :
    m.files.follow m.cwd (join m.cwdPath path) = m.files.follow m.cwd path :=
  Tree.follow_join_cwd hm.files hm.cwd hpath hshort

/-! ## The file -/

namespace Machine.HasOwn

variable (h : m.HasOwn)

include h

theorem follow_ownPath :
    m.files.follow m.cwd m.ownPath = m.files.follow m.cwd Config.fileName :=
  h.toIsProper.follow_join_cwdPath Config.isName_fileName.ne_empty fun _ => h.short

/-- The configuration in the working directory is the first that is looked for. -/
theorem configPath? : m.configPath? none = some m.ownPath := by
  obtain ⟨bytes, hbytes⟩ := h.file
  have hfile : m.isFile m.ownPath := by
    have hstat := Tree.follow_name_of_file Config.isName_fileName hbytes
    rw [isFile, Tree.file?, Tree.stat, h.follow_ownPath, hstat]
    simp [bind, Except.bind, hbytes]
  rw [configPath?_none, discover]
  exact List.find?_cons_of_pos hfile

/-- Both paths lead to the same file. -/
theorem holds_found_iff : m.Holds m.ownPath held ↔ m.Holds Config.fileName held := by
  have hread : m.files.read m.cwd m.ownPath = m.files.read m.cwd Config.fileName :=
    Tree.read_congr h.follow_ownPath
  rw [Holds, Holds, readText, readText, hread]

theorem parent?_ownPath : parent? m.ownPath = some m.cwdPath := by
  have hcwd : m.files.get? ([] ++ m.cwd) = some .directory := h.cwd
  exact Tree.parent?_join_place Config.isName_fileName
    (h.files.isName_of_mem (Option.isSome_of_eq_some hcwd))

theorem rootFrom_ownPath (root : String) : rootFrom m.ownPath root = join m.cwdPath root := by
  rw [rootFrom, h.parent?_ownPath]
  rfl

end Machine.HasOwn

/-- By its name, a configuration stands in the empty path. -/
theorem Config.rootFrom_fileName (root : String) : rootFrom fileName root = root := by
  have hparent : parent? fileName = some "" := by decide
  rw [rootFrom, hparent]
  show join "" root = root
  simp [join]

/-! ## The root -/

/-- A root is the same directory from the working directory as from the empty path. -/
theorem Machine.IsFirmRoot.isDirectory_eq (hroot : m.IsFirmRoot root) (hm : m.IsProper) :
    m.isDirectory (join m.cwdPath root) = m.isDirectory root :=
  Tree.isDirectory_congr (hm.follow_join_cwdPath hroot.ne_empty hroot.short)

/-- Below it, the same paths lead to the same places. -/
theorem Machine.IsFirmRoot.follow_below (hroot : m.IsFirmRoot root) (hm : m.IsProper)
    {place : String} (hplace : place ≠ "")
    (hreach : ¬isAbsolute root →
      PageDirectory.reaches ⟨m.files, m.cwd, join m.cwdPath root⟩ place) :
    m.files.follow m.cwd (join (join m.cwdPath root) place) =
      m.files.follow m.cwd (join root place) := by
  rw [join_join _ _ hroot.ne_empty]
  refine hm.follow_join_cwdPath (join_ne_empty root hplace) fun hrelative => ?_
  have hshort := PageDirectory.reaches_iff.1
    (hreach (mt (isAbsolute_join_of_isAbsolute · place) hrelative))
  rwa [join_join _ _ hroot.ne_empty] at hshort

/-- A request that leads to nothing out of reach sees the same pages below a root from the working
directory as from the empty path. -/
theorem DocRequest.seesAlike_below {r : DocRequest} {c : Config} (hroot : m.IsFirmRoot root)
    (hm : m.IsProper)
    (hreach : ¬isAbsolute root → r.InReach m { c with docs.root? := some (join m.cwdPath root) }) :
    r.SeesAlike c (PageDirectory.store ⟨m.files, m.cwd, join m.cwdPath root⟩)
      (PageDirectory.store ⟨m.files, m.cwd, root⟩) := by
  constructor
  · intro base hbase
    rw [PageDirectory.keys_store, PageDirectory.keys_store]
    refine PageDirectory.keys_congr ?_
    rw [PageDirectory.pathOf, PageDirectory.pathOf]
    cases hplace : normalize? base with
    | none => exact hm.follow_join_cwdPath hroot.ne_empty hroot.short
    | some place =>
      exact hroot.follow_below hm (ne_empty_of_normalize? (normalize?_of_normalize? hplace))
        fun hrelative => (hreach hrelative).bases base place hbase hplace
  · intro page hpage
    refine PageDirectory.find?_congr fun place hplace => ?_
    exact hroot.follow_below hm (ne_empty_of_normalize? (normalize?_of_normalize? hplace))
      fun hrelative => (hreach hrelative).pages page place hpage hplace

/-! ## Runs -/

theorem DocRequest.configured_of_no_directory {r : DocRequest} {c : Config}
    (h : r.docsDirectory = none) : r.configured c = c := by
  rw [configured, h]
  rfl

/-- What a run uses that finds a configuration in the working directory, and what it uses if the
configuration is named. -/
inductive Machine.IsOwn (m : Machine) : Config → Config → Prop
  | of_holds {held : Config} (hheld : m.Holds Config.fileName held) :
    IsOwn m (held.locatedAt m.ownPath) (held.locatedAt Config.fileName)

/-- The roots of a configuration in the working directory are firm. -/
def Machine.HasFirmRoots (m : Machine) : Prop :=
  ∀ held, m.Holds Config.fileName held → ∀ root, held.docs.root? = some root → m.IsFirmRoot root

/-- The configuration is as valid if it is found as if it is named. -/
theorem Machine.HasOwn.isValid_iff (h : m.HasOwn)
    (hroot : ∀ root, held.docs.root? = some root → m.IsFirmRoot root) :
    (held.locatedAt m.ownPath).IsValid m.isDirectory ↔
      (held.locatedAt Config.fileName).IsValid m.isDirectory := by
  refine Config.isValid_congr rfl rfl ?_
  simp only [Config.locatedAt]
  cases hheld : held.docs.root? with
  | none => simp
  | some root =>
    simp only [Option.map_some, Option.some.injEq, forall_eq', h.rootFrom_ownPath,
      Config.rootFrom_fileName, (hroot root hheld).isDirectory_eq h.toIsProper]

/-- A run loads the same, whether the configuration is found or named. -/
theorem Machine.HasOwn.loadAlike (h : m.HasOwn) (hroots : m.HasFirmRoots) :
    m.LoadAlike m.IsOwn none m (some Config.fileName) := by
  constructor
  · intro c hc
    obtain ⟨held, hheld, rfl, hvalid⟩ := (loads_iff_of_path h.configPath?).1 hc
    rw [h.holds_found_iff] at hheld
    exact ⟨_, (loads_iff_of_path rfl).2
      ⟨held, hheld, rfl, (h.isValid_iff (hroots held hheld)).1 hvalid⟩, .of_holds hheld⟩
  · intro d hd
    obtain ⟨held, hheld, rfl, hvalid⟩ := (loads_iff_of_path rfl).1 hd
    exact ⟨_, (loads_iff_of_path h.configPath?).2
      ⟨held, h.holds_found_iff.2 hheld, rfl, (h.isValid_iff (hroots held hheld)).2 hvalid⟩,
      .of_holds hheld⟩

/-- The pages are the same to a request, whether the configuration is found or named. -/
theorem DocRequest.seesAlike_found {r : DocRequest} (h : m.HasOwn)
    (hroot : ∀ root, held.docs.root? = some root → m.IsFirmRoot root)
    (hreach : r.docsDirectory = none → ∀ root, held.docs.root? = some root → ¬isAbsolute root →
      r.InReach m (held.locatedAt m.ownPath)) :
    r.SeesAlike (r.configured (held.locatedAt m.ownPath))
      ((r.configured (held.locatedAt m.ownPath)).store m)
      ((r.configured (held.locatedAt Config.fileName)).store m) := by
  cases hdirectory : r.docsDirectory with
  | some directory =>
    have hstore : ∀ c, (r.configured c).store m =
        PageDirectory.store ⟨m.files, m.cwd, directory⟩ := by
      intro c
      rw [configured, hdirectory]
      rfl
    rw [hstore, hstore]
    exact .refl r _ _
  | none =>
    have hreach := hreach hdirectory
    rw [configured_of_no_directory hdirectory, configured_of_no_directory hdirectory]
    rw [Config.locatedAt] at hreach ⊢
    rw [Config.locatedAt]
    cases hheld : held.docs.root? with
    | none => exact .refl r _ _
    | some root =>
      rw [hheld] at hreach
      simp only [Option.map_some, h.rootFrom_ownPath, Config.rootFrom_fileName] at hreach ⊢
      exact seesAlike_below (hroot root hheld) h.toIsProper (hreach root rfl)

/-- **Naming the configuration that is found makes no difference.** Where the working directory has
a configuration, a command that names none ends as it does if it names this one, if the root of the
configuration is not the empty path. If it is a relative path, those with that of the working
directory before it may not be too long: that of the root, and for documentation those of the
pages. -/
theorem Command.run_named (h : m.HasOwn) (hroots : m.HasFirmRoots) (color : Bool) :
    (∀ r : DocRequest, r.config = none →
      (r.docsDirectory = none → ∀ held, m.Holds "shelldoc.yaml" held →
        ∀ root, held.docs.root? = some root → ¬isAbsolute root →
          r.InReach m (held.locatedAt m.ownPath)) →
      (run m color (.doc r)).EndsLike
        (run m color (.doc { r with config := some "shelldoc.yaml" }))) ∧
    ∀ r : InspectionsRequest, r.config = none →
      (run m color (.inspections r)).EndsLike
        (run m color (.inspections { r with config := some "shelldoc.yaml" })) := by
  have hload : ∀ config : Option String, config = none →
      m.LoadAlike m.IsOwn config m (some Config.fileName) := by
    rintro _ rfl
    exact h.loadAlike hroots
  constructor
  · intro r hconfig hreach
    refine endsLike_doc r.docsDirectory (hload r.config hconfig) Iff.rfl ?_ color
    rintro _ _ ⟨hheld⟩
    exact ⟨rfl, DocRequest.seesAlike_found h (hroots _ hheld) fun hnone => hreach hnone _ hheld⟩
  · intro r hconfig
    refine endsLike_inspections (hload r.config hconfig) ?_ color
    rintro _ _ ⟨hheld⟩
    rfl

/-- The empty root is no directory for a configuration that is named, so that it is refused. -/
theorem Command.run_named_of_empty_root (hheld : m.Holds Config.fileName held)
    (hroot : held.docs.root? = some "") (r : DocRequest) (color : Bool) :
    (run m color (.doc { r with config := some Config.fileName })).status.code = 2 := by
  have hempty : ¬m.isDirectory "" := by
    rw [Machine.isDirectory, Tree.isDirectory, Tree.stat, Tree.follow]
    exact Bool.false_ne_true
  have hrefused : DocRequest.IsRefused { r with config := some Config.fileName } m := by
    refine .config fun c hc => hempty ?_
    obtain ⟨other, hother, rfl, hvalid⟩ := (Machine.loads_iff_of_path rfl).1 hc
    refine hvalid.root "" ?_
    rw [hother.unique hheld, Config.locatedAt, hroot, Option.map_some, Config.rootFrom_fileName]
  rw [(DocRequest.run_of_isRefused color hrefused).1]
  rfl

/-- A machine with a configuration of the given text in its working directory, and the page of one
command in a directory beside it. -/
def ownMachine (text : String) : Machine where
  files := (((((Tree.empty.set ["work"] .directory).set ["work", "shelldoc.yaml"]
    (.file text.toUTF8)).set ["work", "pages"] .directory).set ["work", "pages", "documentation"]
    .directory).set ["work", "pages", "documentation", "internal"] .directory).set
    ["work", "pages", "documentation", "internal", "cd.html"] (.file "C".toUTF8)
  cwd := ["work"]

theorem hasOwn_ownMachine (text : String) : (ownMachine text).HasOwn where
  files := by
    have hwork := Tree.isProper_empty.set [] "work" .directory (by decide) rfl rfl
    have hfile := hwork.set ["work"] "shelldoc.yaml" (.file text.toUTF8) (by decide) rfl rfl
    have hpages := hfile.set ["work"] "pages" .directory (by decide) rfl rfl
    have hbase := hpages.set ["work", "pages"] "documentation" .directory (by decide) rfl rfl
    have hinternal := hbase.set ["work", "pages", "documentation"] "internal" .directory (by decide)
      rfl rfl
    exact hinternal.set ["work", "pages", "documentation", "internal"] "cd.html"
      (.file "C".toUTF8) (by decide) rfl rfl
  cwd := rfl
  file := ⟨text.toUTF8, rfl⟩
  short := by
    show (join "/work" "shelldoc.yaml").utf8ByteSize ≤ Tree.maxPath
    decide

/-- With a relative root, it makes no difference. -/
theorem Command.run_named_relativeRoot :
    let m := ownMachine "docs:\n  root: pages\n"
    let request : DocRequest := { names := ["cd"] }
    m.HasOwn ∧ m.HasFirmRoots ∧
      (∀ held, m.Holds "shelldoc.yaml" held → request.InReach m (held.locatedAt m.ownPath)) ∧
      (run m false (.doc request)).EndsLike
        (run m false (.doc { request with config := some "shelldoc.yaml" })) ∧
      (run m false (.doc request)).status.code = 0 := by
  intro m request
  have hown : m.HasOwn := hasOwn_ownMachine _
  have hcontent : m.Holds "shelldoc.yaml" { docs := { root? := some "pages" } } :=
    Machine.held?_eq_some_iff.1 (by decide +kernel)
  have hroots : m.HasFirmRoots := by
    intro held hholds root hroot
    rw [hholds.unique hcontent] at hroot
    cases hroot
    exact ⟨by decide, fun _ => by decide⟩
  have hreach : ∀ held, m.Holds "shelldoc.yaml" held →
      request.InReach m (held.locatedAt m.ownPath) := by
    intro held hholds
    have hroot : rootFrom m.ownPath "pages" = "/work/pages" := by
      rw [hown.rootFrom_ownPath]
      decide
    have hlocated : held.locatedAt m.ownPath = { docs := { root? := some "/work/pages" } } := by
      rw [hholds.unique hcontent, Config.locatedAt, Option.map_some, hroot]
    rw [hlocated]
    constructor
    · rintro base place ⟨hlist, -⟩
      cases hlist
    · rintro page place ⟨-, -, s, hs, name, hname, -, -, rfl⟩ hplace
      have hall : ∀ s ∈ Config.stockSources, ∀ name ∈ request.names,
          ∀ place ∈ normalize? (s.base ++ "/" ++ Text.trim name ++ ".html"),
            PageDirectory.reaches ⟨m.files, m.cwd, "/work/pages"⟩ place := by decide +kernel
      exact hall s hs name hname place hplace
  exact ⟨hown, hroots, hreach,
    (run_named hown hroots false).1 request rfl fun _ held hholds _ _ _ => hreach held hholds,
    by decide +kernel⟩

/-- The empty root is the working directory if the configuration is found, and nothing if it is
named. -/
theorem Command.empty_root_named :
    let m := ownMachine "docs:\n  root: \"\"\n"
    m.HasOwn ∧ (run m false (.doc { list := true })).status.code = 0 ∧
      (run m false (.doc { list := true, config := some "shelldoc.yaml" })).status.code = 2 :=
  ⟨hasOwn_ownMachine _, by decide +kernel, by decide +kernel⟩

end ShellPages
