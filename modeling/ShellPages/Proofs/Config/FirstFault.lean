import Mathlib.Data.Prod.Lex
import ShellPages.Config.Check
import ShellPages.Proofs.Config.Sources
import ShellPages.Proofs.Files.Following
import ShellPages.Proofs.Page.Path
import ShellPages.Proofs.Text.Edit

/-!
# The first fault of a configuration

A configuration has rules to meet: one for its root, three for each source and one for each pattern.
What goes against a rule is said for each of them by itself (`Config.Violates`), whether other rules
are met or not. Where no fault is found, nothing goes against any rule
(`not_violates_of_fault?_eq_none`), and a fault that is found goes against a rule while those before
it are met (`exists_first_violation`). There is only one such rule, and only one fault goes against
it (`Violates.unique`), with the message that is said about this rule (`Violates.reports`), so this
says which fault is found: `fault?_exact`. Sources are looked at one by one, and one that is in
order by itself changes nothing, whatever the others are called (`fault?_insert`).
-/

namespace ShellPages

/-! ## Rules -/

/-- A rule for a source. -/
inductive SourceRule where
  /-- The source has a name. -/
  | named
  /-- The base is not blank. -/
  | baseNotBlank
  /-- The base leads somewhere. -/
  | baseLeads
  deriving DecidableEq, Repr

/-- The order of the rules for a source. -/
def SourceRule.rank : SourceRule → ℕ
  | named => 0
  | baseNotBlank => 1
  | baseLeads => 2

/-- A rule for a configuration. -/
inductive ConfigRule where
  /-- The root is a directory. -/
  | root
  /-- A rule for the source at a position. -/
  | source (position : ℕ) (rule : SourceRule)
  /-- What is at a position among the patterns is one. -/
  | pattern (position : ℕ)
  deriving DecidableEq, Repr

/-- The order of the rules: the root, the sources by position, the patterns by position. -/
def ConfigRule.rank : ConfigRule → ℕ ×ₗ ℕ ×ₗ ℕ
  | root => toLex (0, toLex (0, 0))
  | source position rule => toLex (1, toLex (position, rule.rank))
  | pattern position => toLex (2, toLex (position, 0))

theorem SourceRule.rank_injective : Function.Injective rank := by
  rintro (_ | _ | _) (_ | _ | _) h <;> first | rfl | cases h

theorem ConfigRule.rank_injective : Function.Injective rank := by
  rintro (_ | ⟨i, rule⟩ | i) (_ | ⟨j, other⟩ | j) h <;>
    simp_all [rank, SourceRule.rank_injective.eq_iff]

/-- What goes against a rule for a source, with the fault that it is. -/
inductive SourceConfig.Violates (s : SourceConfig) : SourceRule → ConfigFault → Prop
  | named (hname : Text.trim s.name = "") : s.Violates .named .blankSourceName
  | baseNotBlank {base : String} (hbase : s.base? = some base) (hblank : Text.trim base = "") :
      s.Violates .baseNotBlank (.blankBase s.name)
  | baseLeads {base : String} (hbase : s.base? = some base)
      (hnowhere : (∀ segment ∈ Page.segments base, ¬Page.isOrdinary segment) ∨
        Page.parentSegment ∈ Page.segments base) :
      s.Violates .baseLeads (.invalidBase s.name base)

/-- What goes against a rule for a configuration, with the fault that it is. -/
inductive Config.Violates (m : Machine) (c : Config) : ConfigRule → ConfigFault → Prop
  | root {root : String} (hroot : c.docs.root? = some root)
      (hnone : ¬∃ place, m.files.follow m.cwd root = .ok place ∧
        m.files.get? place = some .directory) :
      Violates m c .root (.rootIsNoDirectory root)
  | source {position : ℕ} {s : SourceConfig} {rule : SourceRule} {fault : ConfigFault}
      (hs : c.docs.sources[position]? = some s) (hfault : s.Violates rule fault) :
      Violates m c (.source position rule) fault
  | pattern {position : ℕ} {pattern : String} {fault : Glob.Fault}
      (hpattern : c.inspections.disabled[position]? = some pattern)
      (hfault : Glob.parse pattern = .error fault) :
      Violates m c (.pattern position) (.invalidPattern pattern fault)

/-- What is said when something goes against a rule. -/
inductive Config.Reports (c : Config) : ConfigRule → String → Prop
  | root {root : String} (hroot : c.docs.root? = some root) :
      Reports c .root s!"docs root {Text.quoted root} is not a directory"
  | named {position : ℕ} :
      Reports c (.source position .named) "documentation source with empty name"
  | baseNotBlank {position : ℕ} {s : SourceConfig} (hs : c.docs.sources[position]? = some s) :
      Reports c (.source position .baseNotBlank)
        s!"documentation source {Text.quoted s.name} has an empty prefix"
  | baseLeads {position : ℕ} {s : SourceConfig} {base : String}
      (hs : c.docs.sources[position]? = some s) (hbase : s.base? = some base) :
      Reports c (.source position .baseLeads)
        s!"documentation source {Text.quoted s.name} has an invalid prefix {Text.quoted base}"
  | pattern {position : ℕ} {pattern : String} {fault : Glob.Fault}
      (hpattern : c.inspections.disabled[position]? = some pattern)
      (hfault : Glob.parse pattern = .error fault) :
      Reports c (.pattern position)
        s!"invalid disabled inspection pattern {Text.quoted pattern}: {fault.message pattern}"

/-- A source in order: it has a name, and its base, if it is given, names something and leads to no
parent. -/
structure SourceConfig.Meets (s : SourceConfig) : Prop where
  named : Text.trim s.name ≠ ""
  based : ∀ base, s.base? = some base → Text.trim base ≠ "" ∧
    (∃ segment ∈ Page.segments base, Page.isOrdinary segment) ∧
    Page.parentSegment ∉ Page.segments base

/-! ## Sources -/

namespace SourceConfig

variable {s : SourceConfig} {rule : SourceRule} {fault other : ConfigFault}

theorem isValid_iff_meets : s.IsValid ↔ s.Meets := by
  have hnamed : ¬Text.isBlankText s.name ↔ Text.trim s.name ≠ "" := by
    rw [Text.isBlankText_iff_trim]
  have hbased : ∀ base, (¬Text.isBlankText base ∧ Page.normalize? base ≠ none) ↔
      Text.trim base ≠ "" ∧ (∃ segment ∈ Page.segments base, Page.isOrdinary segment) ∧
        Page.parentSegment ∉ Page.segments base := by
    intro base
    rw [Text.isBlankText_iff_trim, ne_eq (Page.normalize? base), Page.normalize?_eq_none_iff,
      not_or]
    simp
  constructor
  · exact fun h => ⟨hnamed.1 h.named, fun base hbase => (hbased base).1 (h.based base hbase)⟩
  · exact fun h => ⟨hnamed.2 h.named, fun base hbase => (hbased base).2 (h.based base hbase)⟩

theorem Meets.not_violates (h : s.Meets) : ¬s.Violates rule fault := by
  rintro (hname | ⟨hbase, hblank⟩ | ⟨hbase, hnowhere⟩)
  · exact h.named hname
  · exact (h.based _ hbase).1 hblank
  · obtain ⟨-, ⟨segment, hmem, hordinary⟩, hparent⟩ := h.based _ hbase
    rcases hnowhere with hnone | hclimbs
    · exact hnone segment hmem hordinary
    · exact hparent hclimbs

theorem Violates.unique (h : s.Violates rule fault) (hother : s.Violates rule other) :
    fault = other := by
  cases h with
  | named => cases hother; rfl
  | baseNotBlank => cases hother; rfl
  | baseLeads hbase =>
    obtain - | - | ⟨hother, -⟩ := hother
    rw [Option.some.inj (hbase.symm.trans hother)]

theorem not_violates_of_fault?_eq_none (h : s.fault? = none) : ¬s.Violates rule fault :=
  (isValid_iff_meets.1 (fault?_eq_none_iff.1 h)).not_violates

/-- What is found in a source goes against a rule, and those before it are met. -/
theorem exists_first_violation (h : s.fault? = some fault) :
    ∃ rule, s.Violates rule fault ∧
      ∀ earlier other, earlier.rank < rule.rank → ¬s.Violates earlier other := by
  rw [fault?] at h
  split at h
  · next hname =>
    obtain rfl := Option.some.inj h
    exact ⟨.named, .named (Text.isBlankText_iff_trim.1 hname),
      fun _ _ hlt => absurd hlt (Nat.not_lt_zero _)⟩
  next hname =>
  split at h
  · cases h
  next base hbase =>
  split at h
  · next hblank =>
    obtain rfl := Option.some.inj h
    refine ⟨.baseNotBlank, .baseNotBlank hbase (Text.isBlankText_iff_trim.1 hblank), ?_⟩
    intro earlier other hlt hviolates
    cases hviolates with
    | named htrim => exact hname (Text.isBlankText_iff_trim.2 htrim)
    | baseNotBlank => exact absurd hlt (Nat.lt_irrefl _)
    | baseLeads => exact absurd hlt (by decide)
  next hblank =>
  split at h
  · next hnormal =>
    obtain rfl := Option.some.inj h
    have hnowhere := Page.normalize?_eq_none_iff.1 (Option.isNone_iff_eq_none.1 hnormal)
    refine ⟨.baseLeads, .baseLeads hbase hnowhere, ?_⟩
    intro earlier other hlt hviolates
    cases hviolates with
    | named htrim => exact hname (Text.isBlankText_iff_trim.2 htrim)
    | baseNotBlank hother htrim =>
      obtain rfl := Option.some.inj (hbase.symm.trans hother)
      exact hblank (Text.isBlankText_iff_trim.2 htrim)
    | baseLeads => exact absurd hlt (Nat.lt_irrefl _)
  · cases h

end SourceConfig

/-! ## The order of the rules -/

namespace ConfigRule

variable {earlier : ConfigRule} {position : ℕ} {rule : SourceRule}

/-- Nothing comes before the root. -/
theorem not_rank_lt_root : ¬earlier.rank < root.rank := by
  cases earlier <;> simp [rank, Prod.Lex.toLex_lt_toLex]

/-- Before a rule for a source come the root, the sources before it and its own earlier rules. -/
theorem rank_lt_source_iff : earlier.rank < (source position rule).rank ↔
    earlier = root ∨ ∃ i r, earlier = source i r ∧
      (i < position ∨ i = position ∧ r.rank < rule.rank) := by
  cases earlier <;> simp [rank, Prod.Lex.toLex_lt_toLex]

/-- Before a pattern come the root, all sources and the patterns before it. -/
theorem rank_lt_pattern_iff : earlier.rank < (pattern position).rank ↔
    earlier = root ∨ (∃ i r, earlier = source i r) ∨ ∃ i, earlier = pattern i ∧ i < position := by
  cases earlier <;> simp [rank, Prod.Lex.toLex_lt_toLex]

end ConfigRule

/-! ## Configurations -/

namespace Config

variable {m : Machine} {c : Config} {rule : ConfigRule} {fault other : ConfigFault}

/-- A configuration is valid if its root is a directory and its sources and patterns are in
order. -/
theorem isValid_iff_meets : c.IsValid m.isDirectory ↔
    (∀ root, c.docs.root? = some root →
      ∃ place, m.files.follow m.cwd root = .ok place ∧ m.files.get? place = some .directory) ∧
    (∀ s ∈ c.docs.sources, s.Meets) ∧
    ∀ pattern ∈ c.inspections.disabled, ∃ tokens, Glob.parse pattern = .ok tokens := by
  simp only [← SourceConfig.isValid_iff_meets, ← Files.Tree.isDirectory_iff]
  exact ⟨fun h => ⟨h.root, h.sources, h.disabled⟩, fun ⟨hroot, hs, hd⟩ => ⟨hroot, hs, hd⟩⟩

theorem not_violates_of_fault?_eq_none (h : c.fault? m.isDirectory = none) :
    ¬c.Violates m rule fault := by
  obtain ⟨hroot, hsources, hdisabled⟩ := isValid_iff_meets.1 (fault?_eq_none_iff.1 h)
  intro hviolates
  cases hviolates with
  | root hgiven hnone => exact hnone (hroot _ hgiven)
  | source hs hfault => exact (hsources _ (List.mem_of_getElem? hs)).not_violates hfault
  | pattern hpattern hfault =>
    obtain ⟨tokens, htokens⟩ := hdisabled _ (List.mem_of_getElem? hpattern)
    rw [htokens] at hfault
    cases hfault

theorem Violates.unique (h : c.Violates m rule fault) (hother : c.Violates m rule other) :
    fault = other := by
  cases h with
  | root hroot =>
    obtain ⟨hroot', -⟩ | - | - := hother
    rw [Option.some.inj (hroot.symm.trans hroot')]
  | source hs hfault =>
    obtain - | ⟨hs', hfault'⟩ | - := hother
    obtain rfl := Option.some.inj (hs.symm.trans hs')
    exact hfault.unique hfault'
  | pattern hpattern hfault =>
    obtain - | - | ⟨hpattern', hfault'⟩ := hother
    obtain rfl := Option.some.inj (hpattern.symm.trans hpattern')
    rw [Except.error.inj (hfault.symm.trans hfault')]

/-- The message of a fault is what is said about the rule that it goes against. -/
theorem Violates.reports (h : c.Violates m rule fault) : c.Reports rule fault.message := by
  cases h with
  | root hroot => exact .root hroot
  | source hs hfault =>
    cases hfault with
    | named => exact .named
    | baseNotBlank => exact .baseNotBlank hs
    | baseLeads hbase => exact .baseLeads hs hbase
  | pattern hpattern hfault => exact .pattern hpattern hfault

/-- Only one thing is said about a rule. -/
theorem Reports.unique {text message : String} (h : c.Reports rule text)
    (hother : c.Reports rule message) : text = message := by
  cases h with
  | root hroot =>
    obtain ⟨hroot'⟩ := hother
    rw [Option.some.inj (hroot.symm.trans hroot')]
  | named =>
    cases hother
    rfl
  | baseNotBlank hs =>
    obtain - | - | ⟨hs'⟩ := hother
    rw [Option.some.inj (hs.symm.trans hs')]
  | baseLeads hs hbase =>
    obtain - | - | - | ⟨hs', hbase'⟩ := hother
    obtain rfl := Option.some.inj (hs.symm.trans hs')
    rw [Option.some.inj (hbase.symm.trans hbase')]
  | pattern hpattern hfault =>
    obtain - | - | - | - | ⟨hpattern', hfault'⟩ := hother
    obtain rfl := Option.some.inj (hpattern.symm.trans hpattern')
    rw [Except.error.inj (hfault.symm.trans hfault')]

/-- What goes against the rule for the root is what is found there. -/
theorem violates_root_iff : c.Violates m .root fault ↔
    (c.docs.root?.bind fun root =>
      if m.isDirectory root then none else some (.rootIsNoDirectory root)) = some fault := by
  have hfound : ∀ root, (if m.isDirectory root then none else
      some (ConfigFault.rootIsNoDirectory root)) = some fault ↔
      (¬∃ place, m.files.follow m.cwd root = .ok place ∧ m.files.get? place = some .directory) ∧
        fault = .rootIsNoDirectory root := by
    intro root
    rw [Option.ite_none_left_eq_some, Machine.isDirectory, Files.Tree.isDirectory_iff,
      Option.some.injEq, eq_comm (b := fault)]
  simp only [Option.bind_eq_some_iff, hfound]
  constructor
  · rintro ⟨hroot, hnone⟩
    exact ⟨_, hroot, hnone, rfl⟩
  · rintro ⟨root, hroot, hnone, rfl⟩
    exact .root hroot hnone

/-- What is found first in a list is found at a position, and nothing is found before it. -/
theorem exists_first_of_findSome? {α : Type} {find : α → Option ConfigFault} {items : List α}
    (h : items.findSome? find = some fault) :
    ∃ position item, items[position]? = some item ∧ find item = some fault ∧
      ∀ i : ℕ, i < position → ∀ before, items[i]? = some before → find before = none := by
  obtain ⟨front, item, back, rfl, hitem, hfront⟩ := List.findSome?_eq_some_iff.1 h
  refine ⟨front.length, item, by simp, hitem, fun i hi before hbefore => ?_⟩
  rw [List.getElem?_append_left hi] at hbefore
  exact hfront before (List.mem_of_getElem? hbefore)

/-- **The fault that is found goes against a rule, and the rules before it are met.** -/
theorem exists_first_violation (h : c.fault? m.isDirectory = some fault) :
    ∃ rule, c.Violates m rule fault ∧
      ∀ earlier other, earlier.rank < rule.rank → ¬c.Violates m earlier other := by
  simp only [fault?, Option.orElse_eq_orElse, Option.orElse_eq_or, Option.or_eq_some_iff] at h
  rcases h with hroot | ⟨hroot, hsources | ⟨hsources, hdisabled⟩⟩
  · exact ⟨.root, violates_root_iff.2 hroot, fun _ _ hlt => absurd hlt ConfigRule.not_rank_lt_root⟩
  all_goals
    have hrootmet : ∀ other, ¬c.Violates m .root other := fun other hviolates => by
      rw [violates_root_iff, hroot] at hviolates
      cases hviolates
  · obtain ⟨position, s, hs, hfault, hbefore⟩ := exists_first_of_findSome? hsources
    obtain ⟨rule, hviolates, hfirst⟩ := SourceConfig.exists_first_violation hfault
    refine ⟨.source position rule, .source hs hviolates, fun earlier other hlt => ?_⟩
    rcases ConfigRule.rank_lt_source_iff.1 hlt with rfl | ⟨i, r, rfl, hi | ⟨rfl, hr⟩⟩
    · exact hrootmet other
    · rintro (- | ⟨hs', hfault'⟩ | -)
      exact SourceConfig.not_violates_of_fault?_eq_none (hbefore i hi _ hs') hfault'
    · rintro (- | ⟨hs', hfault'⟩ | -)
      obtain rfl := Option.some.inj (hs.symm.trans hs')
      exact hfirst r other hr hfault'
  · obtain ⟨position, pattern, hpattern, hfault, hbefore⟩ := exists_first_of_findSome? hdisabled
    obtain ⟨cause, hcause, rfl⟩ := patternFault?_eq_some_iff.1 hfault
    refine ⟨.pattern position, .pattern hpattern hcause, fun earlier other hlt => ?_⟩
    rcases ConfigRule.rank_lt_pattern_iff.1 hlt with rfl | ⟨i, r, rfl⟩ | ⟨i, rfl, hi⟩
    · exact hrootmet other
    · rintro (- | ⟨hs', hfault'⟩ | -)
      have hnone := List.findSome?_eq_none_iff.1 hsources _ (List.mem_of_getElem? hs')
      exact SourceConfig.not_violates_of_fault?_eq_none hnone hfault'
    · rintro (- | - | ⟨hpattern', hfault'⟩)
      have hsome := patternFault?_eq_some_iff.2 ⟨_, hfault', rfl⟩
      rw [hbefore i hi _ hpattern'] at hsome
      cases hsome

/-- A source in order changes nothing, wherever it stands. -/
theorem fault?_insert {isDirectory : String → Bool} {front back : List SourceConfig}
    {s : SourceConfig} (hsources : c.docs.sources = front ++ back) (hs : s.Meets) :
    (c.withSources (front ++ s :: back)).fault? isDirectory = c.fault? isDirectory := by
  have hnone : s.fault? = none :=
    SourceConfig.fault?_eq_none_iff.2 (SourceConfig.isValid_iff_meets.2 hs)
  simp only [fault?, withSources, hsources, List.findSome?_append, List.findSome?_cons, hnone]

/-- **Which fault is found.** No fault is found exactly if the root, where there is one, leads to a
directory, each source has a name and, if it gives a base, one that is not blank, names something
and leads to no parent, and each pattern is one. Otherwise the fault is that of the first rule that
something goes against: of the root, then of the sources by position, first the name, then the blank
base, then the one that leads nowhere, then of the patterns by position. Its message is the one that
is said about this rule. A source that is in order by itself changes nothing, wherever it stands,
also if it gives no base or is called like another one. -/
theorem fault?_exact (c : Config) (m : Machine) :
    (c.fault? m.isDirectory = none ↔
      (∀ root, c.docs.root? = some root →
        ∃ place, m.files.follow m.cwd root = .ok place ∧ m.files.get? place = some .directory) ∧
      (∀ s ∈ c.docs.sources, s.Meets) ∧
      ∀ pattern ∈ c.inspections.disabled, ∃ tokens, Glob.parse pattern = .ok tokens) ∧
    (∀ fault, c.fault? m.isDirectory = some fault ↔
      ∃ rule, c.Violates m rule fault ∧
        ∀ earlier other, earlier.rank < rule.rank → ¬c.Violates m earlier other) ∧
    (∀ rule fault, c.Violates m rule fault → ∀ text, c.Reports rule text ↔ text = fault.message) ∧
    ∀ front s back, c.docs.sources = front ++ back → s.Meets →
      (c.withSources (front ++ s :: back)).fault? m.isDirectory = c.fault? m.isDirectory := by
  refine ⟨?_, fun fault => ⟨exists_first_violation, ?_⟩, fun rule fault hviolates text => ?_,
    fun front s back => fault?_insert⟩
  · rw [fault?_eq_none_iff, isValid_iff_meets]
  · rintro ⟨rule, hviolates, hfirst⟩
    cases hfound : c.fault? m.isDirectory with
    | none => exact absurd hviolates (not_violates_of_fault?_eq_none hfound)
    | some other =>
      -- two rules that are both the first one are the same
      obtain ⟨rule', hviolates', hfirst'⟩ := exists_first_violation hfound
      have hrank : rule.rank = rule'.rank := le_antisymm
        (not_lt.1 fun hlt => hfirst _ _ hlt hviolates')
        (not_lt.1 fun hlt => hfirst' _ _ hlt hviolates)
      obtain rfl := ConfigRule.rank_injective hrank
      rw [hviolates.unique hviolates']
  · constructor
    · exact fun htext => htext.unique hviolates.reports
    · rintro rfl
      exact hviolates.reports

/-- A machine with a link to a directory of pages. -/
def linkedPages : Machine where
  files := { entries := [(["docs"], .directory), (["pages"], .link "docs")], distinct := by decide }

/-- A configuration with several faults, of which the base with a parent in it comes first. -/
def severalFaults : Config where
  docs := {
    root? := some "pages"
    sources := [⟨"a", .builtin, none⟩, ⟨"b", .external, some "x/../y"⟩, ⟨" ", .external, some ""⟩] }
  inspections := { disabled := ["*", "[a"] }

theorem fault?_exact_severalFaults :
    let front : List SourceConfig := [⟨"a", .builtin, none⟩]
    let back : List SourceConfig := [⟨"b", .external, some "x/../y"⟩, ⟨" ", .external, some ""⟩]
    let again : SourceConfig := ⟨"a", .external, none⟩
    let longer := severalFaults.withSources (front ++ again :: back)
    let climbing : ConfigFault := .invalidBase "b" "x/../y"
    severalFaults.docs.sources = front ++ back ∧ again.Meets ∧
      severalFaults.Violates linkedPages (.source 1 .baseLeads) climbing ∧
      severalFaults.Reports (.source 1 .baseLeads) climbing.message ∧
      (severalFaults.fault? linkedPages.isDirectory).map ConfigFault.message =
        some "documentation source \"b\" has an invalid prefix \"x/../y\"" ∧
      longer.fault? linkedPages.isDirectory = severalFaults.fault? linkedPages.isDirectory := by
  intro front back again longer climbing
  have hagain : again.Meets := ⟨by decide, fun base hbase => by cases hbase⟩
  have hclimbing : severalFaults.Violates linkedPages (.source 1 .baseLeads) climbing :=
    .source rfl (.baseLeads rfl (.inr (by decide)))
  obtain ⟨-, -, hreports, hinsert⟩ := fault?_exact severalFaults linkedPages
  exact ⟨rfl, hagain, hclimbing, (hreports _ _ hclimbing _).2 rfl, by decide +kernel,
    hinsert front again back rfl hagain⟩

end Config

end ShellPages
