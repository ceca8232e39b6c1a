import ShellPages.Proofs.Command.Doc
import ShellPages.Proofs.Config.Located
import ShellPages.Proofs.Page.Directory

/-!
# Runs that do not depend on the working directory

A command is anchored if it names its configuration, and all paths that it names are absolute
(`Command.IsAnchored`). The configuration that it loads has no root or an absolute one then, since
relative roots are meant from the file (`Machine.isAnchored_of_readConfig`), and what is below an
absolute root is the same from everywhere (`Config.store_moved`). So nothing about the run depends
on where it takes place: `Command.run_moved`.
-/

namespace ShellPages

open Files

/-- Tasks that go on in the same way after every value go on in the same way. -/
theorem Task.bind_congr {α β : Type} {x : Task α} {f g : α → Task β}
    (h : ∀ a, x.result = .ok a → f a = g a) : x >>= f = x >>= g := by
  show x.andThen f = x.andThen g
  rw [andThen, andThen]
  cases hx : x.result with
  | ok a =>
    dsimp only
    rw [h a hx]
  | error fault => rfl

/-- The same machine, seen from another place. -/
def Machine.movedTo (m : Machine) (place : Place) : Machine :=
  { m with cwd := place }

variable {m : Machine} {path : String} {c : Config}

/-- A configuration with no root or an absolute one. -/
def Config.IsAnchored (c : Config) : Prop :=
  ∀ root, c.docs.root? = some root → isAbsolute root

/-! ## Absolute paths from elsewhere -/

namespace Machine

variable (m) (place : Place)

theorem isDirectory_moved (h : isAbsolute path) :
    (m.movedTo place).isDirectory path = m.isDirectory path :=
  Tree.isDirectory_congr (m.files.follow_of_isAbsolute place m.cwd h)

theorem readConfig_moved (h : isAbsolute path) :
    (m.movedTo place).readConfig path = m.readConfig path := by
  have hread : (m.movedTo place).files.read (m.movedTo place).cwd path = m.files.read m.cwd path :=
    Tree.read_congr (m.files.follow_of_isAbsolute place m.cwd h)
  rw [readConfig, readConfig, readText, readText, hread]

theorem checked_moved (h : c.IsAnchored) : (m.movedTo place).checked c = m.checked c := by
  have hfault : c.fault? (m.movedTo place).isDirectory = c.fault? m.isDirectory := by
    rw [Config.fault?, Config.fault?]
    cases hroot : c.docs.root? with
    | none => rfl
    | some root =>
      simp only [Option.bind_some, m.isDirectory_moved place (h root hroot)]
  rw [checked, checked, hfault]

/-- What a file at an absolute path holds has no root or an absolute one: there is nothing to read
at the path of the root directory, which alone has no parent. -/
theorem isAnchored_of_readConfig (habsolute : isAbsolute path) (hread : m.readConfig path = .ok c) :
    c.IsAnchored := by
  obtain ⟨held, ⟨text, htext, -⟩, rfl⟩ := readConfig_eq_ok_iff.1 hread
  rintro root hroot
  obtain ⟨written, -, rfl⟩ := Option.map_eq_some_iff.1 hroot
  rw [rootFrom]
  cases hparent : parent? path with
  | some directory =>
    exact isAbsolute_join_of_isAbsolute (isAbsolute_of_parent? habsolute hparent) written
  | none =>
    rw [readText, bind_eq_ok_iff] at htext
    obtain ⟨bytes, hbytes, -⟩ := htext
    exact absurd hbytes (m.files.not_read_of_no_parent m.cwd habsolute hparent bytes)

/-- A configuration at an absolute path is loaded in the same way from everywhere. -/
theorem loadConfig_moved (h : isAbsolute path) :
    (m.movedTo place).loadConfig (some path) = m.loadConfig (some path) := by
  have hresult : (m.movedTo place).configAt (some path) >>= (m.movedTo place).checked =
      m.configAt (some path) >>= m.checked := by
    rw [configAt, configAt, m.readConfig_moved place h]
    cases hread : m.readConfig path with
    | error fault => rfl
    | ok c => exact m.checked_moved place (m.isAnchored_of_readConfig h hread)
  exact congrArg (Task.mk · [configLine (some path)]) hresult

theorem isAnchored_of_loadConfig (h : isAbsolute path)
    (hload : (m.loadConfig (some path)).result = .ok c) : c.IsAnchored := by
  obtain ⟨⟨hread⟩, -⟩ := result_loadConfig_eq_ok_iff.1 hload
  exact m.isAnchored_of_readConfig h hread

end Machine

/-- Pages below an absolute root are the same from everywhere. -/
theorem Config.store_moved (m : Machine) (place : Place) (h : c.IsAnchored) :
    c.store (m.movedTo place) = c.store m := by
  rw [store, store]
  cases hroot : c.docs.root? with
  | none => rfl
  | some root =>
    have hfollow : ∀ path, isAbsolute path →
        m.files.follow place path = m.files.follow m.cwd path :=
      fun path => m.files.follow_of_isAbsolute place m.cwd
    have hbelow : ∀ path, isAbsolute (join root path) :=
      isAbsolute_join_of_isAbsolute (h root hroot)
    have hfind : ∀ path, (PageDirectory.store ⟨m.files, place, root⟩).find? path =
        (PageDirectory.store ⟨m.files, m.cwd, root⟩).find? path :=
      fun path => PageDirectory.find?_congr fun page _ => hfollow _ (hbelow page)
    have hkeys : ∀ base, PageDirectory.keys ⟨m.files, place, root⟩ base =
        PageDirectory.keys ⟨m.files, m.cwd, root⟩ base := by
      refine fun base => PageDirectory.keys_congr (hfollow _ ?_)
      rw [PageDirectory.pathOf]
      split
      · exact hbelow _
      · exact h root hroot
    exact congrArg₂ Store.mk (funext hfind) (funext hkeys)

/-! ## Anchored commands -/

namespace DocRequest

variable (r : DocRequest) (place : Place)

theorem withDocsDirectory_moved {directory? : Option String}
    (h : ∀ directory, directory? = some directory → isAbsolute directory) :
    withDocsDirectory (m.movedTo place) c directory? = withDocsDirectory m c directory? := by
  cases directory? with
  | none => rfl
  | some directory =>
    rw [withDocsDirectory, withDocsDirectory, m.isDirectory_moved place (h directory rfl)]

/-- The pages that a request names are as anchored as those of the configuration. -/
theorem isAnchored_configured (hc : c.IsAnchored)
    (h : ∀ directory, r.docsDirectory = some directory → isAbsolute directory) :
    (r.configured c).IsAnchored := by
  intro root hroot
  rw [configured, Option.orElse_eq_orElse, Option.orElse_eq_or, Option.or_eq_some_iff] at hroot
  rcases hroot with hdirectory | ⟨-, hconfigured⟩
  · exact h root hdirectory
  · exact hc root hconfigured

/-- Documentation is shown in the same way from everywhere. -/
theorem task_moved (color : Bool) (hconfig : r.config = some path) (hpath : isAbsolute path)
    (hdirectory : ∀ directory, r.docsDirectory = some directory → isAbsolute directory) :
    r.task (m.movedTo place) color = r.task m color := by
  rw [task, task]
  refine Task.bind_congr fun format _ => Task.bind_congr fun kind _ => ?_
  split
  · rfl
  · rw [hconfig, m.loadConfig_moved place hpath]
    refine Task.bind_congr fun loaded hloaded => ?_
    rw [withDocsDirectory_moved place hdirectory]
    refine Task.bind_congr fun used hused => Task.bind_congr fun _ _ => ?_
    have hanchored : used.IsAnchored := by
      obtain ⟨-, rfl⟩ := withDocsDirectory_eq_ok_iff.1 hused
      exact r.isAnchored_configured (m.isAnchored_of_loadConfig hpath hloaded) hdirectory
    rw [listPages, listPages, lookUp, lookUp, Config.store_moved m place hanchored]

end DocRequest

/-- Inspections are listed in the same way from everywhere. -/
theorem InspectionsRequest.task_moved (r : InspectionsRequest) (place : Place) (color : Bool)
    (hconfig : r.config = some path) (hpath : isAbsolute path) :
    r.task (m.movedTo place) color = r.task m color := by
  rw [task, task, enabled, enabled, hconfig, m.loadConfig_moved place hpath]

namespace Command

/-- A command that names its configuration and no relative path. -/
inductive IsAnchored : Command → Prop
  | doc {r : DocRequest} {path : String} (hconfig : r.config = some path)
    (hpath : isAbsolute path)
    (hdirectory : ∀ directory, r.docsDirectory = some directory → isAbsolute directory) :
    IsAnchored (.doc r)
  | inspections {r : InspectionsRequest} {path : String} (hconfig : r.config = some path)
    (hpath : isAbsolute path) : IsAnchored (.inspections r)

/-- **What a configuration means does not depend on where a command is run.** A command that names
its configuration by an absolute path, and no relative directory of pages, has the same outcome
from every working directory, whatever the configuration holds: the same status and output, the same
log and lines on a fault, and the same files. -/
theorem run_moved {command : Command} (h : command.IsAnchored) (m : Machine) (here there : Place)
    (color : Bool) :
    run (m.movedTo here) color command = run (m.movedTo there) color command := by
  have hstays : ∀ place, run (m.movedTo place) color command = run m color command := by
    intro place
    cases h with
    | @doc r path hconfig hpath hdirectory =>
      rw [run, run, r.task_moved place color hconfig hpath hdirectory]
      rfl
    | @inspections r path hconfig hpath =>
      rw [run, run, r.task_moved place color hconfig hpath]
      rfl
  rw [hstays here, hstays there]

/-- A project with a page of its own, whose configuration has a root that is the empty path. -/
def projectMachine : Machine where
  files := (((((Tree.empty.set ["project"] .directory).set ["project", "shelldoc.yaml"]
    (.file "docs:\n  root: \"\"\n".toUTF8)).set ["project", "documentation"] .directory).set
    ["project", "documentation", "internal"] .directory).set
    ["project", "documentation", "internal", "cd.html"] (.file "C".toUTF8))

theorem run_moved_project :
    let command : Command := .doc { names := ["cd"], config := some "/project/shelldoc.yaml" }
    command.IsAnchored ∧
      run (projectMachine.movedTo []) false command =
        run (projectMachine.movedTo ["project"]) false command ∧
      (run (projectMachine.movedTo []) false command).status.code = 0 := by
  intro command
  have hanchored : command.IsAnchored := .doc rfl (by decide) (by simp)
  exact ⟨hanchored, run_moved hanchored projectMachine [] ["project"] false, by decide +kernel⟩

end Command

end ShellPages
