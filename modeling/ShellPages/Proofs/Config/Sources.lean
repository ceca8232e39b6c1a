import ShellPages.Proofs.Agreement

/-!
# The sources of a chain and those of the listings

The names, bases and order of sources are needed in two places: where a chain is made of them, and
where their pages are listed. Both follow `Config.askedSources`, so that a chain and its listings
are in step, position by position (`forall₂_listings`). The sources that stand in for missing ones
can also be written down, and nothing changes. The main statement is `sources_in_step`.
-/

namespace ShellPages.Config

/-- A configuration with other sources. -/
def withSources (c : Config) (sources : List SourceConfig) : Config :=
  { c with docs := { c.docs with sources } }

/-- A listing describes a source: it has the name and the base of a source of pages, and the keys
that are available to it. -/
structure Describes (store : Store) (l : Listing) (s : Source) : Prop where
  source : ∃ policy, s = .pages l.source l.base policy
  keys : l.keys = s.keys store

theorem describes_listingOf (store : Store) (s : SourceConfig) :
    Describes store (listingOf store s) s.toSource where
  source := ⟨s.kind.policy, rfl⟩
  keys := rfl

theorem listings_eq_map (c : Config) (store : Store) :
    c.listings store = c.askedSources.map (listingOf store) := by
  rw [← sources_eq_askedSources]
  rfl

/-- The listings describe the sources of the chain, one by one and in the same order. -/
theorem forall₂_listings (c : Config) (store : Store) :
    List.Forall₂ (Describes store) (c.listings store) c.chain.sources := by
  rw [listings_eq_map, sources_chain, List.forall₂_map_left_iff, List.forall₂_map_right_iff]
  exact List.forall₂_same.2 fun s _ => describes_listingOf store s

/-! ## The stock sources -/

/-- For want of sources those are asked that could be written down instead. -/
theorem askedSources_withSources {c : Config} (h : c.docs.sources = []) :
    (c.withSources stockSources).askedSources = c.askedSources := by
  have hstock : (c.withSources stockSources).docs.sources ≠ [] := List.cons_ne_nil _ _
  rw [askedSources, if_neg hstock, askedSources, if_pos h]
  rfl

theorem chain_withSources {c : Config} (h : c.docs.sources = []) :
    (c.withSources stockSources).chain = c.chain := by
  have hsources : (c.withSources stockSources).chain.sources = c.chain.sources := by
    rw [sources_chain, sources_chain, askedSources_withSources h]
  exact congrArg Chain.mk hsources

/-- Which sources a configuration has does not matter to its pages. -/
theorem store_withSources (c : Config) (sources : List SourceConfig) (m : Machine) :
    (c.withSources sources).store m = c.store m := rfl

/-- **Chain and listings are in step.** There are as many listings as sources in the chain, and each
of them describes the source at its position. Where a configuration has no sources, writing down the
stock ones changes neither a listing nor anything about a lookup: not what it finds, which paths it
opens or which events it reports. -/
theorem sources_in_step (c : Config) (m : Machine) :
    List.Forall₂ (Describes (c.store m)) (c.listings (c.store m)) c.chain.sources ∧
    (c.docs.sources = [] →
      let spelled := c.withSources [⟨"builtin", .builtin, none⟩, ⟨"external", .external, none⟩]
      spelled.listings (spelled.store m) = c.listings (c.store m) ∧
      ∀ element asWritten, spelled.chain.lookup (spelled.store m) element asWritten =
        c.chain.lookup (c.store m) element asWritten) := by
  refine ⟨forall₂_listings c (c.store m), fun h => ?_⟩
  intro spelled
  have hstore : spelled.store m = c.store m := store_withSources c _ m
  have hasked : spelled.askedSources = c.askedSources := askedSources_withSources h
  have hchain : spelled.chain = c.chain := chain_withSources h
  refine ⟨?_, fun element asWritten => ?_⟩
  · rw [hstore, listings_eq_map, listings_eq_map, hasked]
  · rw [hstore, hchain]

theorem sources_in_step_mixedPages :
    let c : Config := { docs := { root? := some "./" } }
    let spelled := c.withSources stockSources
    c.docs.sources = [] ∧
      spelled.listings (spelled.store mixedMachine) = c.listings (c.store mixedMachine) ∧
      spelled.chain.lookup (spelled.store mixedMachine) (.command "cd") none =
        c.chain.lookup (c.store mixedMachine) (.command "cd") none := by
  intro c spelled
  obtain ⟨hlistings, hlookup⟩ := (sources_in_step c mixedMachine).2 rfl
  exact ⟨rfl, hlistings, hlookup (.command "cd") none⟩

end ShellPages.Config
