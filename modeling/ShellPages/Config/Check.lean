import ShellPages.Config
import ShellPages.Files.Tree
import ShellPages.Text.Quoted

/-!
# Checking configurations

A configuration that can be read may still be wrong: its root may be no directory, a source may
have a blank name, a blank base or a base that leads nowhere, and a pattern may be no pattern.
`Config.fault?` finds the first of these in the order of the configuration. The configurations in
which no fault is found are the valid ones: `Config.fault?_eq_none_iff`.
-/

namespace ShellPages

/-! ## Faults -/

/-- What is wrong with a configuration. -/
inductive ConfigFault where
  | rootIsNoDirectory (root : String)
  | blankSourceName
  | blankBase (source : String)
  | invalidBase (source base : String)
  | invalidPattern (pattern : String) (fault : Glob.Fault)
  deriving DecidableEq, Repr

/-- The text of a fault. -/
def ConfigFault.message : ConfigFault → String
  | rootIsNoDirectory root => s!"docs root {Text.quoted root} is not a directory"
  | blankSourceName => "documentation source with empty name"
  | blankBase source => s!"documentation source {Text.quoted source} has an empty prefix"
  | invalidBase source base =>
    s!"documentation source {Text.quoted source} has an invalid prefix {Text.quoted base}"
  | invalidPattern pattern fault =>
    s!"invalid disabled inspection pattern {Text.quoted pattern}: {fault.message pattern}"

/-- What is wrong with a source. A base that is not given is right. -/
def SourceConfig.fault? (s : SourceConfig) : Option ConfigFault :=
  if Text.isBlankText s.name then some .blankSourceName
  else
    match s.base? with
    | none => none
    | some base =>
      if Text.isBlankText base then some (.blankBase s.name)
      else if (Page.normalize? base).isNone then some (.invalidBase s.name base)
      else none

/-- What is wrong with a pattern. -/
def patternFault? (pattern : String) : Option ConfigFault :=
  match Glob.parse pattern with
  | .ok _ => none
  | .error fault => some (.invalidPattern pattern fault)

/-- The first thing that is wrong with a configuration, where `isDirectory` tells which paths lead
to directories. -/
def Config.fault? (isDirectory : String → Bool) (c : Config) : Option ConfigFault :=
  (c.docs.root?.bind fun root =>
    if isDirectory root then none else some (.rootIsNoDirectory root)) <|>
  c.docs.sources.findSome? SourceConfig.fault? <|>
  c.inspections.disabled.findSome? patternFault?

/-! ## Valid configurations -/

/-- A source with a name, and with a base that leads somewhere if one is given. -/
structure SourceConfig.IsValid (s : SourceConfig) : Prop where
  named : ¬Text.isBlankText s.name
  based : ∀ base, s.base? = some base → ¬Text.isBlankText base ∧ Page.normalize? base ≠ none

/-- A configuration that can be used, where `isDirectory` tells which paths lead to directories. -/
structure Config.IsValid (isDirectory : String → Bool) (c : Config) : Prop where
  root : ∀ root, c.docs.root? = some root → isDirectory root
  sources : ∀ s ∈ c.docs.sources, s.IsValid
  disabled : ∀ pattern ∈ c.inspections.disabled, ∃ tokens, Glob.parse pattern = .ok tokens

theorem SourceConfig.fault?_eq_none_iff {s : SourceConfig} : s.fault? = none ↔ s.IsValid := by
  have hparts : s.fault? = none ↔ ¬Text.isBlankText s.name ∧
      ∀ base, s.base? = some base → ¬Text.isBlankText base ∧ Page.normalize? base ≠ none := by
    rw [fault?]
    cases s.base? with
    | none => simp
    | some base =>
      by_cases hname : Text.isBlankText s.name
      · simp [hname]
      · by_cases hbase : Text.isBlankText base <;> simp [hname, hbase]
  rw [hparts]
  exact ⟨fun ⟨hnamed, hbased⟩ => ⟨hnamed, hbased⟩, fun ⟨hnamed, hbased⟩ => ⟨hnamed, hbased⟩⟩

theorem patternFault?_eq_none_iff {pattern : String} :
    patternFault? pattern = none ↔ ∃ tokens, Glob.parse pattern = .ok tokens := by
  rw [patternFault?]
  cases Glob.parse pattern <;> simp

theorem patternFault?_eq_some_iff {pattern : String} {fault : ConfigFault} :
    patternFault? pattern = some fault ↔
      ∃ cause, Glob.parse pattern = .error cause ∧ fault = .invalidPattern pattern cause := by
  rw [patternFault?]
  cases Glob.parse pattern <;> simp [eq_comm]

theorem Config.fault?_eq_none_iff {isDirectory : String → Bool} {c : Config} :
    c.fault? isDirectory = none ↔ c.IsValid isDirectory := by
  have hroot : (c.docs.root?.bind fun root =>
      if isDirectory root then none else some (ConfigFault.rootIsNoDirectory root)) = none ↔
      ∀ root, c.docs.root? = some root → isDirectory root := by
    simp [Option.bind_eq_none_iff]
  simp only [fault?, Option.orElse_eq_orElse, Option.orElse_eq_or, Option.or_eq_none_iff, hroot,
    List.findSome?_eq_none_iff, SourceConfig.fault?_eq_none_iff, patternFault?_eq_none_iff]
  exact ⟨fun ⟨hroot, hsources, hdisabled⟩ => ⟨hroot, hsources, hdisabled⟩,
    fun ⟨hroot, hsources, hdisabled⟩ => ⟨hroot, hsources, hdisabled⟩⟩

end ShellPages
