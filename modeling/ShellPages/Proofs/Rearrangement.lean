import ShellPages.Proofs.Resolution

/-!
# Only the order within a kind matters

Which sources a lookup asks is seen neither by the store nor by the sink: `Traced.outward` leaves it
out. What then remains of a lookup comes from the sources of a single kind, the one that the text of
the construct belongs to (`SourceKind.of`), because the others decline without a look at the store
(`outward_ask_of_ne`). So a lookup is that in the sources of this kind alone (`outward_lookup`), and
sources of different kinds may change places: `lookup_rearranged`.
-/

namespace ShellPages

/-! ## The kind of sources that can answer -/

/-- The kind of sources that a construct belongs to, by its text. -/
def SourceKind.of (element : Construct) : SourceKind :=
  if isBuiltinCommand (Text.trim element.text) then .builtin else .external

variable {store : Store} {element : Construct} {asWritten : Option Construct} {kind : SourceKind}

/-- A stock policy answers for no construct that belongs to the other kind. -/
theorem SourceKind.eq_of_applies (h : kind.policy.applies element asWritten) :
    kind = .of element := by
  obtain ⟨-, -, hshared⟩ := (applies_policy kind).1 h
  rw [of]
  cases kind with
  | builtin => rw [if_pos (hshared.1 rfl)]
  | external => rw [if_neg fun hb => by cases hshared.2 hb]

namespace SourceConfig

variable {s : SourceConfig}

theorem outward_ask (s : SourceConfig) (place : List Nat) :
    (Source.ask store element asWritten place s.toSource).outward =
      (Source.findPage store s.base s.kind.policy element asWritten).outward := by
  rw [toSource, Source.ask, Traced.outward_bind, Traced.outward_asked]
  rfl

/-- A source declines what belongs to the other kind, without a look at the store. -/
theorem outward_ask_of_ne (h : s.kind ≠ .of element) (place : List Nat) :
    (Source.ask store element asWritten place s.toSource).outward = pure none := by
  rw [outward_ask, Source.findPage_of_not_applies fun ha => h (SourceKind.eq_of_applies ha)]
  rfl

end SourceConfig

/-- **Sources of the other kind change nothing** that is seen of a lookup, wherever they stand. -/
theorem outward_askEach_filter_kind (sources : List SourceConfig) (place : List Nat)
    (position other : Nat) :
    (Source.askEach store element asWritten place position
        (sources.map SourceConfig.toSource)).outward =
      (Source.askEach store element asWritten place other
        ((sources.filter (·.kind = .of element)).map SourceConfig.toSource)).outward := by
  induction sources generalizing position other with
  | nil => rfl
  | cons s rest ih =>
    rw [List.map_cons, Source.askEach, Traced.outward_bind]
    by_cases hkind : s.kind = .of element
    · -- the same source is asked on both sides, and what is seen of that does not tell where
      rw [List.filter_cons_of_pos (by simpa using hkind), List.map_cons, Source.askEach,
        Traced.outward_bind, SourceConfig.outward_ask, SourceConfig.outward_ask]
      refine congrArg _ (funext fun found => ?_)
      cases found with
      | none => exact ih (position + 1) (other + 1)
      | some text => rfl
    · rw [List.filter_cons_of_neg (by simpa using hkind), SourceConfig.outward_ask_of_ne hkind]
      exact ih (position + 1) other

/-! ## Rearranged sources -/

/-- Sources are those of builtins and the others, together. -/
theorem SourceConfig.perm_filter_kinds (sources : List SourceConfig) :
    (sources.filter (·.kind = .builtin) ++ sources.filter (·.kind = .external)).Perm sources := by
  have hother : sources.filter (·.kind = .external) =
      sources.filter fun s => !decide (s.kind = .builtin) := by
    refine List.filter_congr fun s _ => ?_
    cases s.kind <;> rfl
  rw [hother]
  exact List.filter_append_perm _ sources

/-- Two configurations have the same pages, and the same sources of each kind in the same order.
Every source has a kind, so each has the sources of the other, in some order. -/
structure Config.Rearranges (c other : Config) : Prop where
  root : other.docs.root? = c.docs.root?
  sources : ∀ kind, other.docs.sources.filter (·.kind = kind) =
    c.docs.sources.filter (·.kind = kind)

namespace Config

variable {c other : Config}

/-- No source is lost or gained. -/
theorem Rearranges.perm (h : c.Rearranges other) : other.docs.sources.Perm c.docs.sources := by
  have hkinds := SourceConfig.perm_filter_kinds other.docs.sources
  rw [h.sources, h.sources] at hkinds
  exact hkinds.symm.trans (SourceConfig.perm_filter_kinds c.docs.sources)

theorem Rearranges.nil_iff (h : c.Rearranges other) :
    other.docs.sources = [] ↔ c.docs.sources = [] := by
  constructor
  · exact fun ho => List.perm_nil.1 (ho ▸ h.perm.symm)
  · exact fun hc => List.perm_nil.1 (hc ▸ h.perm)

/-- The sources that are asked are rearranged with those that are given. -/
theorem Rearranges.askedSources (h : c.Rearranges other) (kind : SourceKind) :
    other.askedSources.filter (·.kind = kind) = c.askedSources.filter (·.kind = kind) := by
  rw [Config.askedSources, Config.askedSources]
  by_cases hnil : c.docs.sources = []
  · rw [if_pos hnil, if_pos (h.nil_iff.2 hnil)]
  · rw [if_neg hnil, if_neg fun ho => hnil (h.nil_iff.1 ho)]
    exact h.sources kind

/-- What is seen of a lookup is what the sources of one kind do. -/
theorem outward_lookup (c : Config) (store : Store) (element : Construct)
    (asWritten : Option Construct) : (c.chain.lookup store element asWritten).outward =
      (Source.askEach store element asWritten [] 0
        ((c.askedSources.filter (·.kind = .of element)).map SourceConfig.toSource)).outward := by
  rw [Chain.lookup, sources_chain]
  exact outward_askEach_filter_kind c.askedSources [] 0 0

/-- **Only the order within a kind matters.** Two configurations that have the same sources of each
kind in the same order have the same pages, and whatever is looked up, in whatever store, is
answered with the same text from a source of the same name, by the same looks at the store and with
the same events. No construct is looked up under two kinds: for all sources but those of one kind,
asking gives nothing, looks at nothing and reports nothing. -/
theorem lookup_rearranged (h : c.Rearranges other) :
    (∀ m, other.store m = c.store m) ∧
    (∀ store element asWritten,
      let found := c.chain.lookup store element asWritten
      let again := other.chain.lookup store element asWritten
      again.value = found.value ∧ again.paths = found.paths ∧ again.events = found.events) ∧
    ∀ element, ∃ kind, ∀ s : SourceConfig, s.kind ≠ kind → ∀ store asWritten place,
      let asked := s.toSource.ask store element asWritten place
      asked.value = none ∧ asked.paths = [] ∧ asked.events = [] := by
  refine ⟨fun m => by rw [store, store, h.root], fun store element asWritten => ?_,
    fun element => ⟨.of element, fun s hs store asWritten place => ?_⟩⟩
  · intro found again
    have hsame : again.outward = found.outward := by
      rw [outward_lookup, outward_lookup, h.askedSources]
    refine ⟨?_, ?_, ?_⟩
    · rw [← Traced.value_outward, hsame, Traced.value_outward]
    · rw [← Traced.paths_outward, hsame, Traced.paths_outward]
    · rw [← Traced.events_outward, hsame, Traced.events_outward]
  · intro asked
    have hnothing : asked.outward = pure none := SourceConfig.outward_ask_of_ne hs place
    refine ⟨?_, ?_, ?_⟩
    · rw [← Traced.value_outward, hnothing, Traced.value_pure]
    · rw [← Traced.paths_outward, hnothing, Traced.paths_pure]
    · rw [← Traced.events_outward, hnothing, Traced.events_pure]

/-- A source of builtins between two others. -/
def interleaved : Config where
  docs := { sources := [⟨"man", .external, none⟩, ⟨"shell", .builtin, some "shell"⟩,
    ⟨"local", .external, some "local"⟩] }

/-- The same sources with that of builtins in front. -/
def grouped : Config where
  docs := { sources := [⟨"shell", .builtin, some "shell"⟩, ⟨"man", .external, none⟩,
    ⟨"local", .external, some "local"⟩] }

theorem lookup_rearranged_interleaved :
    let store := Store.everywhere (.closed "Permission denied")
    let found := interleaved.chain.lookup store (.command " ls ") none
    let again := grouped.chain.lookup store (.command " ls ") none
    interleaved.Rearranges grouped ∧ found.places = [[0], [1], [2]] ∧
      found.paths = ["documentation/external/ls.html", "local/ls.html"] ∧
      again.paths = found.paths ∧ again.events = found.events := by
  intro store found again
  have h : interleaved.Rearranges grouped := by
    refine ⟨rfl, fun kind => ?_⟩
    cases kind <;> rfl
  obtain ⟨-, hsame, -⟩ := lookup_rearranged h
  obtain ⟨-, hpaths, hevents⟩ := hsame store (.command " ls ") none
  exact ⟨h, by decide +kernel, by decide +kernel, hpaths, hevents⟩

end Config

end ShellPages
