import ShellPages.Proofs.Source.AnySource
import ShellPages.Proofs.Source.Lookup

/-!
# Nested chains flatten

The leaves of a chain are the sources in it, at any depth, that are no chains themselves. In the
flat chain of its leaves (`Chain.flattened`) they stand from left to right. What can be seen of
asking a source does not depend on where it stands (`outward_ask`), so that the laws for sources of
any kind give the same text, the same looks at the store and the same events. Which leaves are asked
is read off the listing of the places: as many as there are up to the first with a text, in either
chain (`filter_places_lookup`, `places_lookup_flattened`). The main statement is `lookup_flattened`.
-/

namespace ShellPages

instance Traced.lawfulMonad : LawfulMonad Traced := LawfulMonad.mk' Traced
  (fun x => congrArg (Traced.mk x.value) (List.append_nil x.steps))
  (fun _ _ => rfl)
  (fun x f g => congrArg (Traced.mk _) (List.append_assoc x.steps _ _))

/-! ## Sources as sources of any kind -/

namespace Source

/-- Whether a source is a chain. -/
def isChain : Source → Bool
  | nested _ => true
  | pages .. | fixed .. => false

mutual

/-- The sources at and below a source that are no chains, from left to right. -/
def leaves : Source → List Source
  | nested members => leavesOf members
  | pages name base policy => [pages name base policy]
  | fixed name answer => [fixed name answer]

/-- The sources at and below sources that are no chains, from left to right. -/
def leavesOf : List Source → List Source
  | [] => []
  | source :: rest => source.leaves ++ leavesOf rest

end

/-- What can be seen of a source by itself when it is asked. -/
def respondent (store : Store) (source : Source) : Respondent Traced where
  name := source.name
  answer element asWritten := (source.ask store element asWritten []).outward

mutual

/-- A source as one of any kind. -/
def toAny (store : Store) : Source → AnySource Traced
  | nested members => .nested (toAnyEach store members)
  | pages name base policy => .own (respondent store (pages name base policy))
  | fixed name answer => .own (respondent store (fixed name answer))

/-- Sources as sources of any kind. -/
def toAnyEach (store : Store) : List Source → List (AnySource Traced)
  | [] => []
  | source :: rest => source.toAny store :: toAnyEach store rest

end

variable {store : Store} {element : Construct} {asWritten : Option Construct}

theorem name_toAny (source : Source) : (source.toAny store).name = source.name := by
  cases source with
  | nested members => rfl
  | pages name base policy => rfl
  | fixed name answer => rfl

mutual

theorem leaves_toAny : ∀ source : Source,
    (source.toAny store).leaves = source.leaves.map (respondent store)
  | nested members => by
    rw [toAny, AnySource.leaves, leaves, leavesOf_toAnyEach members]
  | pages name base policy => rfl
  | fixed name answer => rfl

theorem leavesOf_toAnyEach : ∀ members : List Source,
    AnySource.leavesOf (toAnyEach store members) = (leavesOf members).map (respondent store)
  | [] => rfl
  | source :: rest => by
    rw [toAnyEach, AnySource.leavesOf, leavesOf, leaves_toAny source, leavesOf_toAnyEach rest,
      List.map_append]

end

theorem toAnyEach_of_leaves {sources : List Source} (h : ∀ s ∈ sources, !s.isChain) :
    toAnyEach store sources = (sources.map (respondent store)).map .own := by
  induction sources with
  | nil => rfl
  | cons source rest ih =>
    obtain ⟨hs, hrest⟩ := List.forall_mem_cons.1 h
    rw [toAnyEach, ih hrest]
    cases source with
    | nested members => cases hs
    | pages name base policy => rfl
    | fixed name answer => rfl

mutual

/-- What can be seen of asking a source does not depend on where it stands. -/
theorem outward_ask (place : List Nat) : ∀ source : Source,
    (ask store element asWritten place source).outward =
      (source.toAny store).ask element asWritten
  | pages name base policy => rfl
  | fixed name answer => rfl
  | nested members => by
    rw [ask, Traced.outward_bind, Traced.outward_bind, toAny, AnySource.ask,
      outward_askEach place 0 members]
    rfl

theorem outward_askEach (place : List Nat) (position : Nat) : ∀ members : List Source,
    (askEach store element asWritten place position members).outward =
      AnySource.askEach element asWritten (toAnyEach store members)
  | [] => rfl
  | source :: rest => by
    rw [askEach, Traced.outward_bind, outward_ask (place ++ [position]) source, toAnyEach,
      AnySource.askEach, name_toAny, firstOf, bind_map_left]
    refine bind_congr fun found => ?_
    cases found with
    | none => exact outward_askEach place (position + 1) rest
    | some text => rfl

end

/-! ## The places of the leaves -/

/-- Whether a source has a text by itself. -/
def answers (store : Store) (element : Construct) (asWritten : Option Construct)
    (source : Source) : Bool :=
  (source.ownText? store element asWritten).isSome

theorem not_isChain_of_answers {source : Source}
    (h : source.answers store element asWritten) : !source.isChain := by
  cases source with
  | nested members => cases h
  | pages name base policy => rfl
  | fixed name answer => rfl

mutual

theorem leaves_eq_listing : ∀ source : Source,
    (source.listing.filter fun x => !x.2.isChain).map Prod.snd = source.leaves
  | pages name base policy => rfl
  | fixed name answer => rfl
  | nested members => by
    rw [listing, List.filter_cons_of_neg (by simp [isChain]), leavesOf_eq_listingFrom 0 members,
      leaves]

theorem leavesOf_eq_listingFrom (position : Nat) : ∀ members : List Source,
    ((listingFrom position members).filter fun x => !x.2.isChain).map Prod.snd = leavesOf members
  | [] => rfl
  | source :: rest => by
    rw [listingFrom, List.filter_append, List.map_append, leavesOf_eq_listingFrom _ rest,
      List.filter_map, List.map_map, leavesOf, ← leaves_eq_listing source]
    rfl

end

/-- Leaves in a chain of their own stand at its positions. -/
theorem listingFrom_of_leaves {sources : List Source} (h : ∀ s ∈ sources, !s.isChain)
    (position : Nat) :
    listingFrom position sources = (sources.zipIdx position).map fun x => ([x.2], x.1) := by
  induction sources generalizing position with
  | nil => rfl
  | cons source rest ih =>
    obtain ⟨hs, hrest⟩ := List.forall_mem_cons.1 h
    have hlisting : source.listing = [([], source)] := by
      cases source with
      | nested members => cases hs
      | pages name base policy => rfl
      | fixed name answer => rfl
    rw [listingFrom, hlisting, ih hrest, List.zipIdx_cons]
    rfl

/-- The first text at or below a source is that of its leaves. -/
theorem text?_eq_leaves (source : Source) :
    source.text? store element asWritten =
      source.leaves.findSome? (ownText? store element asWritten) := by
  rw [← leaves_eq_listing, List.findSome?_map, text?, ← List.head?_filterMap,
    ← List.head?_filterMap, List.filterMap_filter]
  refine congrArg List.head? (List.filterMap_congr fun x _ => ?_)
  by_cases hleaf : !x.2.isChain
  · rw [if_pos hleaf]
    rfl
  · rw [if_neg hleaf, ← Option.not_isSome_iff_eq_none]
    exact fun h => hleaf (not_isChain_of_answers h)

/-- Sources answer with the first text of their leaves, and with the name of the source that the
leaf is or stands below. -/
theorem findSome?_text?_eq_leaves (members : List Source) :
    (members.findSome? fun s => (s.text? store element asWritten).map (Prod.mk s.name)) =
      (members.flatMap fun s => s.leaves.map (Prod.mk s.name)).findSome? fun x =>
        (x.2.ownText? store element asWritten).map (Prod.mk x.1) := by
  induction members with
  | nil => rfl
  | cons s rest ih =>
    have hs : (s.text? store element asWritten).map (Prod.mk s.name) =
        (s.leaves.map (Prod.mk s.name)).findSome? fun x =>
          (x.2.ownText? store element asWritten).map (Prod.mk x.1) := by
      rw [text?_eq_leaves, List.map_findSome?, List.findSome?_map]
      rfl
    rw [List.findSome?_cons, List.flatMap_cons, List.findSome?_append, ← hs, ← ih]
    cases (s.text? store element asWritten).map (Prod.mk s.name) <;> rfl

end Source

namespace Chain

open Source

/-- The leaves of a chain with their places, from left to right. -/
def leafListing (c : Chain) : List (List Nat × Source) :=
  (listingFrom 0 c.sources).filter fun x => !x.2.isChain

/-- The places of the leaves of a chain, from left to right. -/
def leafPlaces (c : Chain) : List (List Nat) :=
  c.leafListing.map Prod.fst

/-- The flat chain of the leaves of a chain. -/
def flattened (c : Chain) : Chain :=
  ⟨leavesOf c.sources⟩

/-- The leaves of a chain, each with the name of the member that it is or that it stands below. -/
def namedLeaves (c : Chain) : List (String × Source) :=
  c.sources.flatMap fun source => source.leaves.map (Prod.mk source.name)

theorem map_snd_leafListing (c : Chain) : c.leafListing.map Prod.snd = c.flattened.sources :=
  leavesOf_eq_listingFrom 0 c.sources

theorem not_isChain_of_mem_flattened {c : Chain} : ∀ s ∈ c.flattened.sources, !s.isChain := by
  rw [← map_snd_leafListing]
  exact List.forall_mem_map.2 fun x hx => (List.mem_filter.1 hx).2

theorem mem_leafListing_iff {c : Chain} {place : List Nat} {leaf : Source} :
    (place, leaf) ∈ c.leafListing ↔
      Source.at? place c.sources = some leaf ∧ !leaf.isChain := by
  rw [leafListing, List.mem_filter, mem_listingFrom_zero_iff]

/-- The places of leaves are those of sources that are no chains. -/
theorem mem_leafPlaces_iff {c : Chain} {place : List Nat} :
    place ∈ c.leafPlaces ↔
      ∃ leaf, Source.at? place c.sources = some leaf ∧ !leaf.isChain := by
  simp only [leafPlaces, List.mem_map, Prod.exists, mem_leafListing_iff,
    exists_and_right, exists_eq_right]

theorem pairwise_leafPlaces (c : Chain) : c.leafPlaces.Pairwise (· < ·) :=
  List.pairwise_map.2 ((pairwise_listingFrom c.sources).sublist List.filter_sublist)

/-- The leaves stand at their places. -/
theorem map_at?_leafPlaces (c : Chain) :
    c.leafPlaces.map (Source.at? · c.sources) = c.flattened.sources.map some := by
  rw [leafPlaces, ← map_snd_leafListing, List.map_map, List.map_map]
  refine List.map_congr_left fun x hx => ?_
  exact (mem_leafListing_iff.1 hx).1

variable (c : Chain) (store : Store) (element : Construct) (asWritten : Option Construct)

/-- How many leaves are asked: those up to the first that has a text by itself. -/
def askedLeaves : Nat :=
  (upTo (answers store element asWritten) c.flattened.sources).length

/-- Up to the first text, the listing of leaves has as many of them as are asked. -/
theorem upTo_answersAt_eq_take {listed : List (List Nat × Source)}
    (h : listed.map Prod.snd = c.flattened.sources) :
    upTo (answersAt store element asWritten) listed =
      listed.take (c.askedLeaves store element asWritten) := by
  have hlength : (upTo (answersAt store element asWritten) listed).length =
      c.askedLeaves store element asWritten := by
    rw [askedLeaves, ← h, upTo_map, List.length_map]
    rfl
  rw [upTo_eq_take, hlength]

/-- The leaves that are asked, in their order. -/
theorem filter_places_lookup :
    (c.lookup store element asWritten).places.filter (· ∈ c.leafPlaces) =
      c.leafPlaces.take (c.askedLeaves store element asWritten) := by
  have hleaf : (c.asked store element asWritten).filter (fun x => x.1 ∈ c.leafPlaces) =
      (c.asked store element asWritten).filter fun x => !x.2.isChain := by
    refine List.filter_congr fun x hx => ?_
    have hat := c.at?_of_mem_asked store element asWritten hx
    rw [Bool.eq_iff_iff, decide_eq_true_iff, mem_leafPlaces_iff, hat]
    simp only [Option.some.injEq, exists_eq_left']
  have hchain : ∀ x, answersAt store element asWritten x → !x.2.isChain :=
    fun x => not_isChain_of_answers
  calc (c.lookup store element asWritten).places.filter (· ∈ c.leafPlaces)
      = ((c.asked store element asWritten).filter fun x => x.1 ∈ c.leafPlaces).map Prod.fst := by
        rw [places_lookup, List.filter_map]
        rfl
    _ = (upTo (answersAt store element asWritten) c.leafListing).map Prod.fst := by
        rw [hleaf, asked, filter_upTo _ hchain, leafListing]
    _ = c.leafPlaces.take (c.askedLeaves store element asWritten) := by
        rw [c.upTo_answersAt_eq_take store element asWritten c.map_snd_leafListing, List.map_take,
          leafPlaces]

/-- In the flat chain, the same leaves are asked at its positions. -/
theorem places_lookup_flattened :
    (c.flattened.lookup store element asWritten).places =
      (List.range (c.askedLeaves store element asWritten)).map ([·]) := by
  have hlisted := listingFrom_of_leaves c.not_isChain_of_mem_flattened 0
  have hsnd : (listingFrom 0 c.flattened.sources).map Prod.snd = c.flattened.sources := by
    rw [hlisted, List.map_map]
    exact List.zipIdx_map_fst 0 _
  have hfst : (listingFrom 0 c.flattened.sources).map Prod.fst =
      (List.range c.flattened.sources.length).map ([·]) := by
    rw [hlisted, List.map_map, List.range_eq_range', ← List.zipIdx_map_snd, List.map_map]
    rfl
  have hle : c.askedLeaves store element asWritten ≤ c.flattened.sources.length :=
    (upTo_sublist _ _).length_le
  rw [places_lookup, asked, c.upTo_answersAt_eq_take store element asWritten hsnd, List.map_take,
    hfst, ← List.map_take, List.take_range, Nat.min_eq_left hle]

/-! ## Chains flatten -/

theorem outward_lookup_eq_askEach :
    (c.lookup store element asWritten).outward =
      AnySource.askEach element asWritten (toAnyEach store c.sources) :=
  outward_askEach [] 0 c.sources

/-- What can be seen of looking for a text is the same in the flat chain. -/
theorem outward_text?_flattened :
    (c.flattened.text? store element asWritten).outward =
      (c.text? store element asWritten).outward := by
  have hseen (d : Chain) : (d.text? store element asWritten).outward =
      AnySource.ask element asWritten (.nested (toAnyEach store d.sources)) := by
    rw [text?, Traced.outward_bind, outward_lookup_eq_askEach, AnySource.ask]
    rfl
  have hflat : toAnyEach store c.flattened.sources =
      (AnySource.leavesOf (toAnyEach store c.sources)).map .own := by
    rw [leavesOf_toAnyEach]
    exact toAnyEach_of_leaves not_isChain_of_mem_flattened
  rw [hseen, hseen, hflat, AnySource.ask_flattened]

theorem paths_text? : (c.text? store element asWritten).paths =
    (c.lookup store element asWritten).paths := by
  rw [text?, Traced.paths_bind, Traced.paths_pure, List.append_nil]

theorem events_text? : (c.text? store element asWritten).events =
    (c.lookup store element asWritten).events := by
  rw [text?, Traced.events_bind, Traced.events_pure, List.append_nil]

/-- **Nested chains flatten.** The places of the leaves of a chain are in order, and the flat chain
has the leaves in this order. For every construct, both chains have the same text; of the leaves,
both ask the first so many; the store is asked for the same paths, and the same events are reported.
One answers if the other does. The answer of the chain has the name of that of its members which the
first leaf with a text is or stands below.

The members may be sources of any kind, with any effects: a chain does what its flat chain does, and
also answers in the same way if each leaf goes by the name of its member. What can be seen of a
lookup is a case of this. -/
theorem lookup_flattened :
    (∀ (c : Chain) (store : Store) (element : Construct) (asWritten : Option Construct),
      let found := c.lookup store element asWritten
      let flat := c.flattened.lookup store element asWritten
      c.leafPlaces.Pairwise (· < ·) ∧
      (∀ place, place ∈ c.leafPlaces ↔
        ∃ leaf, Source.at? place c.sources = some leaf ∧ !leaf.isChain) ∧
      c.leafPlaces.map (Source.at? · c.sources) = c.flattened.sources.map some ∧
      (c.flattened.text? store element asWritten).value = (c.text? store element asWritten).value ∧
      (∃ n, flat.places = (List.range n).map ([·]) ∧
        found.places.filter (· ∈ c.leafPlaces) = c.leafPlaces.take n) ∧
      flat.paths = found.paths ∧ flat.events = found.events ∧
      flat.value.isSome = found.value.isSome ∧
      found.value = c.namedLeaves.findSome? fun x =>
        (x.2.ownText? store element asWritten).map (Prod.mk x.1)) ∧
    (∀ {m : Type → Type} [Monad m] [LawfulMonad m] (members : List (AnySource m))
        (element : Construct) (asWritten : Option Construct),
      AnySource.ask element asWritten (.nested ((AnySource.leavesOf members).map .own)) =
        AnySource.ask element asWritten (.nested members) ∧
      AnySource.askEach element asWritten ((AnySource.namedLeaves members).map .own) =
        AnySource.askEach element asWritten members) ∧
    ∀ (c : Chain) (store : Store) (element : Construct) (asWritten : Option Construct),
      (c.lookup store element asWritten).outward =
        AnySource.askEach element asWritten (Source.toAnyEach store c.sources) := by
  refine ⟨fun c store element asWritten => ?_, fun members element asWritten => ?_,
    outward_lookup_eq_askEach⟩
  · intro found flat
    have hseen := c.outward_text?_flattened store element asWritten
    have htext : (c.flattened.text? store element asWritten).value =
        (c.text? store element asWritten).value := by
      rw [← Traced.value_outward, hseen, Traced.value_outward]
    refine ⟨c.pairwise_leafPlaces, fun place => mem_leafPlaces_iff, c.map_at?_leafPlaces, htext,
      ⟨c.askedLeaves store element asWritten,
        c.places_lookup_flattened store element asWritten,
        c.filter_places_lookup store element asWritten⟩, ?_, ?_, ?_, ?_⟩
    · rw [← paths_text?, ← paths_text?, ← Traced.paths_outward, hseen, Traced.paths_outward]
    · rw [← events_text?, ← events_text?, ← Traced.events_outward, hseen, Traced.events_outward]
    · have hvalue (d : Chain) : (d.text? store element asWritten).value.isSome =
          (d.lookup store element asWritten).value.isSome := Option.isSome_map
      rw [← hvalue, ← hvalue, htext]
    · rw [c.value_lookup store element asWritten]
      exact findSome?_text?_eq_leaves c.sources
  · exact ⟨AnySource.ask_flattened members, AnySource.askFlat_namedLeaves members⟩

end Chain

/-- A source that answers when it is asked for the second time. It counts in the state. -/
def Respondent.onSecond : Respondent (StateM Nat) where
  name := "second"
  answer _ _ := modifyGet fun n => (if n = 1 then some "Again." else none, n + 1)

namespace Chain

/-- Chains in a chain, one of them empty, before a source of its own. -/
def nestedTwice : Chain where
  sources := [.nested [], .nested [.pages "shell" "shell" .builtin,
    .nested [.fixed "tips" (some "See man.")]], .fixed "last" (some "Nothing.")]

theorem lookup_flattened_nestedTwice :
    let store := Store.everywhere (.closed "Permission denied")
    let found := nestedTwice.lookup store (.command "cd") none
    let flat := nestedTwice.flattened.lookup store (.command "cd") none
    let twice : List (AnySource (StateM Nat)) :=
      [.own .onSecond, .nested [.nested [], .own .onSecond]]
    found.value = some ("chain", "See man.") ∧ flat.value = some ("tips", "See man.") ∧
      found.places = [[0], [1], [1, 0], [1, 1], [1, 1, 0]] ∧ flat.places = [[0], [1]] ∧
      found.paths = ["shell/cd.html"] ∧ flat.paths = found.paths ∧ flat.events = found.events ∧
      (AnySource.askEach (.command "cd") none twice).run 0 = (some ("chain", "Again."), 2) := by
  intro store found flat twice
  obtain ⟨hchain, hany, -⟩ := lookup_flattened
  obtain ⟨-, -, -, -, -, hpaths, hevents, -, -⟩ := hchain nestedTwice store (.command "cd") none
  obtain ⟨-, htwice⟩ := hany twice (.command "cd") none
  refine ⟨by decide +kernel, by decide +kernel, by decide +kernel, by decide +kernel,
    by decide +kernel, hpaths, hevents, ?_⟩
  rw [← htwice]
  rfl

end Chain

end ShellPages
