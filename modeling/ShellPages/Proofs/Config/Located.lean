import ShellPages.Proofs.Command.Loading
import ShellPages.Proofs.Files.Anchored
import ShellPages.Proofs.Resolution

/-!
# Configuration files

A file holds a configuration if its text can be read as one (`Machine.Holds`). What it means depends
on where the file is, since a relative root is meant from there: `Config.locatedAt`. Reading a
configuration is both of these (`Machine.readConfig_eq_ok_iff`), and nothing but the root depends on
the place of the file.
-/

namespace ShellPages

/-- The name of a configuration in the working directory. -/
def Config.fileName : String := "shelldoc.yaml"

theorem Config.isName_fileName : Files.IsName fileName := by
  decide

/-- A root as it is meant in a file at a path: from the directory of the file. -/
def Files.rootFrom (path root : String) : String :=
  (parent? path).elim root fun directory => join directory root

theorem Files.rootFrom_of_isAbsolute {path root : String} (h : isAbsolute root) :
    rootFrom path root = root := by
  rw [rootFrom]
  cases parent? path with
  | none => rfl
  | some directory => exact join_of_isAbsolute directory h

namespace Config

/-- A configuration as it is meant in a file at a path. -/
def locatedAt (c : Config) (path : String) : Config :=
  { c with docs.root? := c.docs.root?.map (Files.rootFrom path) }

variable (c : Config) (path : String)

theorem elim_resolveRoot : (Files.parent? path).elim c c.resolveRoot = c.locatedAt path := by
  have hfrom : Files.rootFrom path = fun root =>
      (Files.parent? path).elim root fun directory => Files.join directory root := rfl
  rw [locatedAt, hfrom]
  cases Files.parent? path with
  | some directory => rfl
  | none =>
    simp only [Option.elim_none, Option.map_id']

variable {c path}

/-- Without root, a configuration means the same everywhere. -/
theorem locatedAt_of_no_root (h : c.docs.root? = none) : c.locatedAt path = c := by
  obtain ⟨version, ⟨root?, sources⟩, inspections⟩ := c
  obtain rfl : root? = none := h
  rfl

/-- An absolute root means the same everywhere. -/
theorem locatedAt_of_isAbsolute {root : String} (hroot : c.docs.root? = some root)
    (habsolute : Files.isAbsolute root) : c.locatedAt path = c := by
  obtain ⟨version, ⟨root?, sources⟩, inspections⟩ := c
  obtain rfl : root? = some root := hroot
  rw [locatedAt, Option.map_some, Files.rootFrom_of_isAbsolute habsolute]

/-- Whether a configuration is valid depends on its root, and on parts that are the same for every
root. -/
theorem isValid_congr {isDirectory isDirectory' : String → Bool} {d : Config}
    (hsources : c.docs.sources = d.docs.sources) (hinspections : c.inspections = d.inspections)
    (hroot : (∀ root, c.docs.root? = some root → isDirectory root) ↔
      ∀ root, d.docs.root? = some root → isDirectory' root) :
    c.IsValid isDirectory ↔ d.IsValid isDirectory' := by
  constructor
  · rintro ⟨hdirectory, hvalid, hpatterns⟩
    exact ⟨hroot.1 hdirectory, hsources ▸ hvalid, hinspections ▸ hpatterns⟩
  · rintro ⟨hdirectory, hvalid, hpatterns⟩
    exact ⟨hroot.2 hdirectory, hsources ▸ hvalid, hinspections ▸ hpatterns⟩

end Config

namespace Machine

/-- A machine with a proper file tree, seen from one of its directories. -/
structure IsProper (m : Machine) : Prop where
  files : m.files.IsProper
  cwd : m.files.get? m.cwd = some .directory

/-- The text of a file is that of a configuration. -/
def Holds (m : Machine) (path : String) (c : Config) : Prop :=
  ∃ text, m.readText path = .ok text ∧ Config.parse text = .ok c

variable {m n : Machine} {explicit : Option String} {path : String} {c : Config}

/-- What a file holds, computed. -/
def held? (m : Machine) (path : String) : Option Config :=
  (m.readText path).toOption.bind fun text => (Config.parse text).toOption

theorem held?_eq_some_iff : m.held? path = some c ↔ m.Holds path c := by
  rw [held?, Holds]
  cases m.readText path with
  | error fault => simp [Except.toOption]
  | ok text => cases hparse : Config.parse text <;> simp [Except.toOption, hparse]

theorem Holds.unique {d : Config} (hc : m.Holds path c) (hd : m.Holds path d) : c = d :=
  Option.some.inj ((held?_eq_some_iff.2 hc).symm.trans (held?_eq_some_iff.2 hd))

theorem holds_of_file? {text : String} (hfile : m.files.file? m.cwd path = some text.toUTF8)
    (hparse : Config.parse text = .ok c) : m.Holds path c := by
  have hdecode : Text.decode text.toUTF8 = .ok text := Text.decode_eq_ok_iff.2 rfl
  refine ⟨text, ?_, hparse⟩
  rw [readText, Files.Tree.read_of_file? hfile]
  simp only [bind, Except.bind, hdecode]

/-- What is read from a file is what it holds, as it is meant there. -/
theorem readConfig_eq_ok_iff :
    m.readConfig path = .ok c ↔ ∃ held, m.Holds path held ∧ c = held.locatedAt path := by
  rw [readConfig]
  simp only [bind_eq_ok_iff, Holds]
  constructor
  · rintro ⟨text, htext, held, hheld, h⟩
    rw [Config.elim_resolveRoot, Except.ok.injEq] at h
    refine ⟨held, ⟨text, ?_, hheld⟩, h.symm⟩
    cases hread : m.readText path with
    | error fault =>
      rw [hread] at htext
      cases htext
    | ok read =>
      rw [hread] at htext
      cases htext
      rfl
  · rintro ⟨held, ⟨text, hread, hheld⟩, rfl⟩
    exact ⟨text, by rw [hread]; rfl, held, hheld, by rw [Config.elim_resolveRoot]⟩

theorem reads_iff_of_path (h : m.configPath? explicit = some path) :
    m.Reads explicit c ↔ ∃ held, m.Holds path held ∧ c = held.locatedAt path := by
  rw [← configAt_eq_ok_iff, h, configAt_some_eq_ok_iff, readConfig_eq_ok_iff]

/-- What is loaded from a file is what it holds, as it is meant there, if that is valid. -/
theorem loads_iff_of_path (h : m.configPath? explicit = some path) :
    m.Loads explicit c ↔
      ∃ held, m.Holds path held ∧ c = held.locatedAt path ∧ c.IsValid m.isDirectory := by
  constructor
  · rintro ⟨hreads, hvalid⟩
    obtain ⟨held, hheld, hc⟩ := (reads_iff_of_path h).1 hreads
    exact ⟨held, hheld, hc, hvalid⟩
  · rintro ⟨held, hheld, hc, hvalid⟩
    exact ⟨(reads_iff_of_path h).2 ⟨held, hheld, hc⟩, hvalid⟩

end Machine

end ShellPages
