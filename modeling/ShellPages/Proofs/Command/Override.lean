import ShellPages.Proofs.Command.Alike
import ShellPages.Proofs.Config.Located

/-!
# Giving a directory of pages instead of configuring it

A directory of pages can be given with a request, and it can be written into the configuration as
its root (`Machine.SetsRoot`). The given one is used in place of the root of the configuration, but
not before the configuration is valid. If the root that it has is a directory, or if it has none,
both lead to the same (`loadAlike_override`); if the root is no directory, the configuration is
refused all the same. The main statement, `run_overridden`, has both cases.
-/

namespace ShellPages

open Files

/-- A configuration with another root. -/
def Config.withRoot (c : Config) (root : String) : Config :=
  { c with docs.root? := some root }

/-- A machine with the configuration of a run, and one on which its root has been set to a
directory. The configuration may be in another file there, but the pages in the directory are the
same. -/
structure Machine.SetsRoot (m : Machine) (explicit : Option String) (path : String) (held : Config)
    (n : Machine) (other : Option String) (directory : String) : Prop where
  found : m.configPath? explicit = some path
  holds : m.Holds path held
  set : ∃ file, n.configPath? other = some file ∧ n.Holds file (held.withRoot directory)
  absolute : isAbsolute directory
  isDirectory : m.isDirectory directory
  staysDirectory : n.isDirectory directory
  pages : PageDirectory.store ⟨m.files, m.cwd, directory⟩ =
    PageDirectory.store ⟨n.files, n.cwd, directory⟩

variable {m n : Machine} {explicit other : Option String} {path directory : String}
  {held c : Config}

namespace Machine.SetsRoot

variable (h : m.SetsRoot explicit path held n other directory)

include h

/-- What is loaded from the configuration with the directory as its root. -/
theorem loads_iff : n.Loads other c ↔
    c = held.withRoot directory ∧ (held.withRoot directory).IsValid n.isDirectory := by
  obtain ⟨file, hfile, hset⟩ := h.set
  have hlocated : (held.withRoot directory).locatedAt file = held.withRoot directory :=
    Config.locatedAt_of_isAbsolute rfl h.absolute
  rw [loads_iff_of_path hfile]
  constructor
  · rintro ⟨other, hother, rfl, hvalid⟩
    rw [hother.unique hset, hlocated] at hvalid ⊢
    exact ⟨rfl, hvalid⟩
  · rintro ⟨rfl, hvalid⟩
    exact ⟨_, hset, hlocated.symm, hvalid⟩

/-- What is loaded from the configuration as it is. -/
theorem loads_original_iff : m.Loads explicit c ↔
    c = held.locatedAt path ∧ (held.locatedAt path).IsValid m.isDirectory := by
  rw [loads_iff_of_path h.found]
  constructor
  · rintro ⟨other, hother, rfl, hvalid⟩
    rw [hother.unique h.holds] at hvalid ⊢
    exact ⟨rfl, hvalid⟩
  · rintro ⟨rfl, hvalid⟩
    exact ⟨held, h.holds, rfl, hvalid⟩

/-- If the root is a directory, or missing, the configuration is as valid with it as with the
other directory. -/
theorem loadAlike_override
    (hroot : ∀ root, held.docs.root? = some root → m.isDirectory (rootFrom path root)) :
    m.LoadAlike (fun c d => c = held.locatedAt path ∧ d = held.withRoot directory) explicit n
      other := by
  have hvalid : (held.locatedAt path).IsValid m.isDirectory ↔
      (held.withRoot directory).IsValid n.isDirectory := by
    refine Config.isValid_congr rfl rfl (iff_of_true ?_ ?_)
    · intro root hlocated
      obtain ⟨written, hwritten, rfl⟩ := Option.map_eq_some_iff.1 hlocated
      exact hroot written hwritten
    · rintro root ⟨⟩
      exact h.staysDirectory
  constructor
  · intro c hc
    obtain ⟨rfl, hc'⟩ := h.loads_original_iff.1 hc
    exact ⟨_, h.loads_iff.2 ⟨rfl, hvalid.1 hc'⟩, rfl, rfl⟩
  · intro d hd
    obtain ⟨rfl, hd'⟩ := h.loads_iff.1 hd
    exact ⟨_, h.loads_original_iff.2 ⟨rfl, hvalid.2 hd'⟩, rfl, rfl⟩

/-- If the root is no directory, there is nothing to load. -/
theorem not_loads_of_not_isDirectory {root : String} (hroot : held.docs.root? = some root)
    (hno : ¬m.isDirectory (rootFrom path root)) (c : Config) : ¬m.Loads explicit c := by
  intro hc
  obtain ⟨-, hvalid⟩ := h.loads_original_iff.1 hc
  refine hno (hvalid.root _ ?_)
  rw [Config.locatedAt, hroot, Option.map_some]

end Machine.SetsRoot

/-- **A given directory of pages instead of a configured one.** A request that gives a directory of
pages ends as it does without it on a configuration that has this directory as its root, if the root
that the configuration has is a directory, or if it has none. If the root is no directory, the
request is refused. -/
theorem Command.run_overridden {r : DocRequest}
    (h : m.SetsRoot r.config path held n other directory) (color : Bool) :
    ((∀ root, held.docs.root? = some root → m.isDirectory (rootFrom path root)) →
      (run m color (.doc { r with docsDirectory := some directory })).EndsLike
        (run n color (.doc { r with config := other, docsDirectory := none }))) ∧
    ((∃ root, held.docs.root? = some root ∧ ¬m.isDirectory (rootFrom path root)) →
      (run m color (.doc { r with docsDirectory := some directory })).status.code = 2) := by
  constructor
  · intro hroot
    have hdirectory : (∀ path, some directory = some path → m.isDirectory path) ↔
        ∀ path, none = some path → n.isDirectory path := by
      simp [h.isDirectory]
    refine endsLike_doc (r := { r with docsDirectory := some directory }) none
      (h.loadAlike_override hroot) hdirectory ?_ color
    rintro _ _ ⟨rfl, rfl⟩
    refine ⟨rfl, ?_⟩
    show DocRequest.SeesAlike _ _ (PageDirectory.store ⟨m.files, m.cwd, directory⟩)
      (PageDirectory.store ⟨n.files, n.cwd, directory⟩)
    rw [h.pages]
    exact .refl _ _ _
  · rintro ⟨root, hroot, hno⟩
    have hrefused : DocRequest.IsRefused { r with docsDirectory := some directory } m :=
      .config (h.not_loads_of_not_isDirectory hroot hno)
    rw [(DocRequest.run_of_isRefused color hrefused).1]
    rfl

/-- A machine with a directory of pages and three configurations, whose roots are another directory,
no directory and the directory of pages. -/
def rootsMachine : Machine where
  files := ((((((((Tree.empty.set ["work"] .directory).set ["work", "other"] .directory).set
    ["work", "other.yaml"] (.file "docs:\n  root: other\n".toUTF8)).set
    ["work", "gone.yaml"] (.file "docs:\n  root: gone\n".toUTF8)).set
    ["work", "pages.yaml"] (.file "docs:\n  root: /work/pages\n".toUTF8)).set
    ["work", "pages"] .directory).set
    ["work", "pages", "documentation"] .directory).set
    ["work", "pages", "documentation", "internal"] .directory).set
    ["work", "pages", "documentation", "internal", "cd.html"] (.file "C".toUTF8)
  cwd := ["work"]

theorem setsRoot_rootsMachine {name : String} {held : Config} (h : rootsMachine.Holds name held)
    (hset : held.withRoot "/work/pages" = { docs := { root? := some "/work/pages" } }) :
    rootsMachine.SetsRoot (some name) name held rootsMachine (some "pages.yaml") "/work/pages" where
  found := rfl
  holds := h
  set := ⟨_, rfl, by rw [hset]; exact Machine.held?_eq_some_iff.1 (by decide +kernel)⟩
  absolute := by decide
  isDirectory := by decide +kernel
  staysDirectory := by decide +kernel
  pages := rfl

/-- With another directory as root the request ends as with the pages as root, and without a
directory as root it is refused. -/
theorem Command.run_overridden_otherRoot :
    let other : Config := { docs := { root? := some "other" } }
    let gone : Config := { docs := { root? := some "gone" } }
    let request : DocRequest := { names := ["cd"], docsDirectory := some "/work/pages" }
    let refused := run rootsMachine false (.doc { request with config := some "gone.yaml" })
    rootsMachine.SetsRoot (some "other.yaml") "other.yaml" other rootsMachine (some "pages.yaml")
      "/work/pages" ∧
    rootsMachine.SetsRoot (some "gone.yaml") "gone.yaml" gone rootsMachine (some "pages.yaml")
      "/work/pages" ∧
    (run rootsMachine false (.doc { request with config := some "other.yaml" })).EndsLike
      (run rootsMachine false (.doc { names := ["cd"], config := some "pages.yaml" })) ∧
    refused.status.code = 2 := by
  intro other gone request refused
  have hother := @setsRoot_rootsMachine "other.yaml" other
    (Machine.held?_eq_some_iff.1 (by decide +kernel)) rfl
  have hgone := @setsRoot_rootsMachine "gone.yaml" gone
    (Machine.held?_eq_some_iff.1 (by decide +kernel)) rfl
  obtain ⟨hlike, -⟩ := run_overridden (r := { names := ["cd"], config := some "other.yaml" })
    hother false
  obtain ⟨-, hrefused⟩ := run_overridden (r := { names := ["cd"], config := some "gone.yaml" })
    hgone false
  refine ⟨hother, hgone, hlike ?_, hrefused ⟨"gone", rfl, by decide +kernel⟩⟩
  rintro root ⟨⟩
  decide +kernel

/-- A root that is no directory keeps a given directory of pages from being used. -/
theorem Command.missing_root_overridden :
    let gone : Config := { docs := { root? := some "gone" } }
    let request : DocRequest := { names := ["cd"], docsDirectory := some "/work/pages" }
    let refused := run rootsMachine false (.doc { request with config := some "gone.yaml" })
    let shown := run rootsMachine false (.doc { names := ["cd"], config := some "pages.yaml" })
    rootsMachine.SetsRoot (some "gone.yaml") "gone.yaml" gone rootsMachine (some "pages.yaml")
      "/work/pages" ∧
    refused.status.code = 2 ∧ shown.status.code = 0 := by
  intro gone request refused shown
  exact ⟨setsRoot_rootsMachine (Machine.held?_eq_some_iff.1 (by decide +kernel)) rfl,
    by decide +kernel, by decide +kernel⟩

end ShellPages
