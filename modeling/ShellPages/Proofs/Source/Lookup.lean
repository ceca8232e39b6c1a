import Mathlib.Data.List.Forall2
import ShellPages.Proofs.Page.Loading
import ShellPages.Proofs.Source.Places

/-!
# The course of a lookup

A source by itself looks at no more than one page (`Source.pagePath?`), and has the text of that
page or the one that it always has (`Source.ownText?`). A lookup goes through the places of a
chain in order, up to the first source that has a text by itself (`steps_askEach`), and gives the
text of that one (`value_askEach`). The main statement, `lookup_course`, derives what is asked,
what the store sees and what the sink sees. Both see a lookup without the sources that it asks:
`Traced.outward`.
-/

namespace ShellPages

/-! ## What is seen from outside -/

namespace Traced

variable {α β : Type}

/-- A lookup without the steps that tell which sources were asked. -/
def outward (x : Traced α) : Traced α where
  value := x.value
  steps := x.steps.filter fun s => s.place?.isNone

@[simp] theorem value_outward (x : Traced α) : x.outward.value = x.value := rfl

theorem outward_bind (x : Traced α) (f : α → Traced β) :
    (x >>= f).outward = x.outward >>= fun a => (f a).outward :=
  congrArg (Traced.mk _) (List.filter_append ..)

@[simp] theorem outward_asked (place : List Nat) (name : String) :
    (step (.asked place name)).outward = pure () := rfl

/-- The store sees none of the steps that are left out. -/
theorem paths_outward (x : Traced α) : x.outward.paths = x.paths := by
  rw [paths, outward, List.filterMap_filter]
  refine List.filterMap_congr fun s _ => ?_
  cases s <;> rfl

/-- The sink sees none of the steps that are left out. -/
theorem events_outward (x : Traced α) : x.outward.events = x.events := by
  rw [events, outward, List.filterMap_filter]
  refine List.filterMap_congr fun s _ => ?_
  cases s <;> rfl

end Traced

/-! ## Faults and the events that tell of them -/

/-- Whether a store has something at a path that cannot be read. -/
def Store.isBroken (store : Store) (path : String) : Bool :=
  (store.find? path).any fun resource => resource.text?.isNone

theorem Store.isBroken_iff {store : Store} {path : String} :
    store.isBroken path ↔ ∃ resource, store.find? path = some resource ∧
      ∀ text : String, resource ≠ .whole text.toUTF8 := by
  simp only [isBroken, Option.any_eq_true, Option.isNone_iff_eq_none,
    Option.eq_none_iff_forall_ne_some, ne_eq, Resource.text?_eq_some_iff]

/-- An event that tells of a fault at a path. -/
structure Event.TellsOf (path : String) (event : Event) : Prop where
  level : event.level = .debug
  component : event.component = "resource"
  fault : ∃ cause, event = ReadFault.event ⟨path, cause⟩

theorem ReadFault.event_tellsOf (fault : ReadFault) : fault.event.TellsOf fault.path :=
  ⟨rfl, rfl, fault.cause, rfl⟩

/-- Loading a page reports that page if it is broken, and nothing else. -/
theorem Store.events_page (store : Store) (base key : String) :
    List.Forall₂ Event.TellsOf ((Page.path? base key).toList.filter store.isBroken)
      (store.page base key).events := by
  cases h : (store.tryPage base key).value with
  | ok found =>
    have hsound : ∀ path ∈ (Page.path? base key).toList, ¬store.isBroken path := by
      intro path hp hbroken
      rw [Option.mem_toList] at hp
      obtain ⟨resource, hf, hu⟩ := isBroken_iff.1 hbroken
      obtain ⟨fault, hu⟩ := Resource.exists_unreadable_iff.2 hu
      have herror := tryPage_eq_error_iff.2 ⟨path, resource, hp, hf, hu⟩
      rw [h] at herror
      cases herror
    rw [events_page_of_ok h, List.filter_eq_nil_iff.2 hsound]
    exact .nil
  | error fault =>
    obtain ⟨path, resource, hp, hf, hu⟩ := tryPage_eq_error_iff.1 h
    have hbroken : store.isBroken path :=
      isBroken_iff.2 ⟨resource, hf, Resource.exists_unreadable_iff.1 ⟨fault, hu⟩⟩
    rw [events_page_of_error h, hp, Option.toList_some, List.filter_singleton, hbroken]
    exact .cons (hu.path_eq ▸ fault.event_tellsOf) .nil

namespace Source

variable (store : Store) (element : Construct) (asWritten : Option Construct)

/-! ## A source by itself -/

/-- The path of the page that a source looks at: the policy applies and gives a key, and neither
the key nor the base is empty. -/
def pagePath? : Source → Option String
  | pages _ base policy =>
    match policy.key? element with
    | some key =>
      if policy.applies element asWritten ∧ key ≠ "" ∧ base ≠ "" then
        some (base ++ "/" ++ key ++ ".html")
      else none
    | none => none
  | fixed .. | nested _ => none

/-- The text that a source has by itself: the one that it always has, or that of its page. A chain
has none besides those of its members. -/
def ownText? : Source → Option String
  | fixed _ answer => answer
  | source => ((source.pagePath? element asWritten).bind store.find?).bind Resource.text?

/-- The first text that is found at or below a source. -/
def text? (source : Source) : Option String :=
  source.listing.findSome? fun x => x.2.ownText? store element asWritten

theorem pagePath?_pages (name base : String) (policy : Policy) :
    (pages name base policy).pagePath? element asWritten =
      if policy.applies element asWritten then (policy.key? element).bind (Page.path? base)
      else none := by
  refine Option.ext fun path => ?_
  by_cases ha : policy.applies element asWritten
  · rw [if_pos ha, pagePath?]
    cases policy.key? element with
    | none => simp
    | some key =>
      simp only [ha, true_and, Option.bind_some, Page.path?_eq_some_iff,
        Option.ite_none_right_eq_some, Option.some.injEq]
      constructor
      · rintro ⟨⟨hk, hb⟩, h⟩
        exact ⟨hb, hk, h.symm⟩
      · rintro ⟨hb, hk, h⟩
        exact ⟨⟨hk, hb⟩, h.symm⟩
  · rw [if_neg ha, pagePath?]
    cases policy.key? element <;> simp [ha]

variable {store element asWritten}

theorem findPage_of_not_applies {base : String} {policy : Policy}
    (h : ¬policy.applies element asWritten) :
    findPage store base policy element asWritten = pure none := by
  rw [findPage, if_neg h]

theorem findPage_of_no_key {base : String} {policy : Policy} (h : policy.key? element = none) :
    findPage store base policy element asWritten = pure none := by
  rw [findPage, h, ite_self]

/-- An empty key needs no case of its own, since it has no page. -/
theorem findPage_of_key {base key : String} {policy : Policy}
    (ha : policy.applies element asWritten) (hk : policy.key? element = some key) :
    findPage store base policy element asWritten = store.page base key := by
  rw [findPage, if_pos ha, hk]
  by_cases h : key = ""
  · have hp : Page.path? base key = none := Page.path?_eq_none_iff.2 (.inr h)
    rw [Store.page, Store.tryPage_of_no_path hp, h]
    rfl
  · simp [h]

theorem value_findPage (name base : String) (policy : Policy) :
    (findPage store base policy element asWritten).value =
      (pages name base policy).ownText? store element asWritten := by
  rw [ownText?, pagePath?_pages]
  · by_cases ha : policy.applies element asWritten
    · cases hk : policy.key? element with
      | none => simp [findPage_of_no_key hk, ha]
      | some key => simp [findPage_of_key ha hk, ha, Store.value_page]
    · simp [findPage_of_not_applies ha, ha]
  · simp

theorem paths_findPage (name base : String) (policy : Policy) :
    (findPage store base policy element asWritten).paths =
      ((pages name base policy).pagePath? element asWritten).toList := by
  rw [pagePath?_pages]
  by_cases ha : policy.applies element asWritten
  · cases hk : policy.key? element with
    | none => simp [findPage_of_no_key hk, ha]
    | some key => simp [findPage_of_key ha hk, ha, Store.paths_page]
  · simp [findPage_of_not_applies ha, ha]

theorem events_findPage (name base : String) (policy : Policy) :
    List.Forall₂ Event.TellsOf
      (((pages name base policy).pagePath? element asWritten).toList.filter store.isBroken)
      (findPage store base policy element asWritten).events := by
  rw [pagePath?_pages]
  by_cases ha : policy.applies element asWritten
  · cases hk : policy.key? element with
    | none => simp [findPage_of_no_key hk, ha]
    | some key => simpa [findPage_of_key ha hk, ha] using store.events_page base key
  · simp [findPage_of_not_applies ha, ha]

theorem places_findPage (base : String) (policy : Policy) :
    (findPage store base policy element asWritten).places = [] := by
  by_cases ha : policy.applies element asWritten
  · cases hk : policy.key? element with
    | none => simp [findPage_of_no_key hk]
    | some key => simp [findPage_of_key ha hk, Store.places_page]
  · simp [findPage_of_not_applies ha]

/-! ## The answer -/

theorem findSome?_listingFrom (position : Nat) (members : List Source) :
    (listingFrom position members).findSome? (fun x => x.2.ownText? store element asWritten) =
      members.findSome? (text? store element asWritten) := by
  induction members generalizing position with
  | nil => rfl
  | cons source rest ih =>
    rw [listingFrom, List.findSome?_append, List.findSome?_map, ih, List.findSome?_cons, text?]
    change Option.or (source.listing.findSome? fun x => x.2.ownText? store element asWritten) _ = _
    cases source.listing.findSome? fun x => x.2.ownText? store element asWritten <;> rfl

theorem text?_nested (members : List Source) :
    (nested members).text? store element asWritten =
      members.findSome? (text? store element asWritten) := by
  rw [text?, listing, List.findSome?_cons]
  exact findSome?_listingFrom 0 members

/-- Names beside the texts do not matter to which text is first. -/
theorem map_snd_findSome? (f : Source → Option String) (members : List Source) :
    (members.findSome? fun s => (f s).map fun text => (s.name, text)).map Prod.snd =
      members.findSome? f := by
  induction members with
  | nil => rfl
  | cons source rest ih => cases h : f source <;> simp [h, ih]

mutual

/-- A source answers with the first text at or below it. -/
theorem value_ask (place : List Nat) : ∀ source : Source,
    (ask store element asWritten place source).value = source.text? store element asWritten
  | pages name base policy => by
    simp [ask, value_findPage name, text?, listing]
  | fixed name answer => by
    simp [ask, text?, listing, ownText?]
  | nested members => by
    simp only [ask, Traced.value_bind, Traced.value_pure, value_askEach place 0 members]
    rw [text?_nested, map_snd_findSome?]

/-- Sources in order answer with the first of their texts and the name of the source that has
it. -/
theorem value_askEach (place : List Nat) (position : Nat) : ∀ members : List Source,
    (askEach store element asWritten place position members).value =
      members.findSome? fun s => (s.text? store element asWritten).map fun text => (s.name, text)
  | [] => rfl
  | source :: rest => by
    simp only [askEach, Traced.value_bind, value_ask (place ++ [position]) source,
      List.findSome?_cons]
    cases source.text? store element asWritten with
    | none => exact value_askEach place (position + 1) rest
    | some text => rfl

end

/-! ## The steps -/

variable (store element asWritten) in
/-- The steps of a source by itself. -/
def ownSteps : Source → List Step
  | pages _ base policy => (findPage store base policy element asWritten).steps
  | fixed .. | nested _ => []

variable (store element asWritten) in
/-- The steps at a place that is counted from another. -/
def stepsAt (start : List Nat) (x : List Nat × Source) : List Step :=
  .asked (start ++ x.1) x.2.name :: x.2.ownSteps store element asWritten

variable (store element asWritten) in
/-- Whether the source at a place has a text by itself. -/
def answersAt (x : List Nat × Source) : Bool :=
  (x.2.ownText? store element asWritten).isSome

/-- Steps at a place below a position, counted from the chain that has the position. -/
theorem stepsAt_append (start : List Nat) (position : Nat) (x : List Nat × Source) :
    stepsAt store element asWritten (start ++ [position]) x =
      stepsAt store element asWritten start (position :: x.1, x.2) := by
  simp [stepsAt]

theorem any_answersAt_listing (source : Source) :
    source.listing.any (answersAt store element asWritten) =
      (source.text? store element asWritten).isSome :=
  List.isSome_findSome?.symm

mutual

/-- Asking a source goes through the places at and below it, up to the first with a text. -/
theorem steps_ask (place : List Nat) : ∀ source : Source,
    (ask store element asWritten place source).steps =
      (upTo (answersAt store element asWritten) source.listing).flatMap
        (stepsAt store element asWritten place)
  | pages name base policy => by
    simp [ask, listing, upTo, stepsAt, ownSteps, Source.name]
  | fixed name answer => by
    simp [ask, listing, upTo, stepsAt, ownSteps, Source.name]
  | nested members => by
    have hown : ¬answersAt store element asWritten ([], nested members) := Bool.false_ne_true
    rw [listing, upTo_cons_of_neg _ hown, List.flatMap_cons]
    simp [ask, steps_askEach place 0 members, stepsAt, ownSteps, Source.name]

/-- Asking sources in order goes through the places of all of them, up to the first with a
text. -/
theorem steps_askEach (place : List Nat) (position : Nat) : ∀ members : List Source,
    (askEach store element asWritten place position members).steps =
      (upTo (answersAt store element asWritten) (listingFrom position members)).flatMap
        (stepsAt store element asWritten place)
  | [] => rfl
  | source :: rest => by
    -- the places of the source, counted from the chain
    let here := source.listing.map fun x => (position :: x.1, x.2)
    have hany : here.any (answersAt store element asWritten) =
        (source.text? store element asWritten).isSome := by
      rw [List.any_map]
      exact any_answersAt_listing source
    have hhere : (ask store element asWritten (place ++ [position]) source).steps =
        (upTo (answersAt store element asWritten) here).flatMap
          (stepsAt store element asWritten place) := by
      rw [steps_ask (place ++ [position]) source, upTo_map, List.flatMap_map,
        funext (stepsAt_append place position)]
      rfl
    rw [listingFrom]
    simp only [askEach, Traced.steps_bind, value_ask (place ++ [position]) source, hhere]
    cases htext : source.text? store element asWritten with
    | some text =>
      rw [htext] at hany
      rw [upTo_append_of_any _ hany]
      exact List.append_nil _
    | none =>
      have hnone : ¬here.any (answersAt store element asWritten) := by simp [hany, htext]
      rw [upTo_append_of_not_any _ hnone, List.flatMap_append, upTo_of_not_any _ hnone]
      exact congrArg _ (steps_askEach place (position + 1) rest)

end

/-! ## What is asked, opened and reported -/

theorem places_ownSteps (source : Source) :
    (source.ownSteps store element asWritten).filterMap Step.place? = [] := by
  cases source with
  | pages name base policy => exact places_findPage base policy
  | fixed name answer => rfl
  | nested members => rfl

theorem paths_ownSteps (source : Source) :
    (source.ownSteps store element asWritten).filterMap Step.path? =
      (source.pagePath? element asWritten).toList := by
  cases source with
  | pages name base policy => exact paths_findPage name base policy
  | fixed name answer => rfl
  | nested members => rfl

theorem events_ownSteps (source : Source) :
    List.Forall₂ Event.TellsOf
      ((source.pagePath? element asWritten).toList.filter store.isBroken)
      ((source.ownSteps store element asWritten).filterMap Step.event?) := by
  cases source with
  | pages name base policy => exact events_findPage name base policy
  | fixed name answer => exact .nil
  | nested members => exact .nil

section Listed

variable (start : List Nat) (listed : List (List Nat × Source))

theorem places_stepsAt :
    (listed.flatMap (stepsAt store element asWritten start)).filterMap Step.place? =
      listed.map fun x => start ++ x.1 := by
  induction listed with
  | nil => rfl
  | cons x listed ih =>
    rw [List.flatMap_cons, List.filterMap_append, ih, stepsAt, List.filterMap_cons,
      places_ownSteps]
    rfl

theorem paths_stepsAt :
    (listed.flatMap (stepsAt store element asWritten start)).filterMap Step.path? =
      listed.filterMap fun x => x.2.pagePath? element asWritten := by
  induction listed with
  | nil => rfl
  | cons x listed ih =>
    rw [List.flatMap_cons, List.filterMap_append, ih, stepsAt, List.filterMap_cons,
      List.filterMap_cons]
    simp only [Step.path?, paths_ownSteps]
    cases x.2.pagePath? element asWritten <;> rfl

theorem events_stepsAt :
    List.Forall₂ Event.TellsOf
      ((listed.filterMap fun x => x.2.pagePath? element asWritten).filter store.isBroken)
      ((listed.flatMap (stepsAt store element asWritten start)).filterMap Step.event?) := by
  induction listed with
  | nil => exact .nil
  | cons x listed ih =>
    have hsplit : (x :: listed).filterMap (fun x => x.2.pagePath? element asWritten) =
        (x.2.pagePath? element asWritten).toList ++
          listed.filterMap fun x => x.2.pagePath? element asWritten := by
      rw [List.filterMap_cons]
      cases x.2.pagePath? element asWritten <;> rfl
    rw [hsplit, List.filter_append, List.flatMap_cons, List.filterMap_append, stepsAt,
      List.filterMap_cons]
    exact List.rel_append (events_ownSteps x.2) ih

end Listed

end Source

namespace Chain

open Source

variable (c : Chain) (store : Store) (element : Construct) (asWritten : Option Construct)

/-- The places that a lookup goes through, with the sources there. -/
def asked : List (List Nat × Source) :=
  upTo (answersAt store element asWritten) (listingFrom 0 c.sources)

theorem steps_lookup : (c.lookup store element asWritten).steps =
    (c.asked store element asWritten).flatMap (stepsAt store element asWritten []) :=
  steps_askEach [] 0 c.sources

theorem value_lookup : (c.lookup store element asWritten).value =
    c.sources.findSome? fun s => (s.text? store element asWritten).map fun text =>
      (s.name, text) :=
  value_askEach [] 0 c.sources

/-- The answer is the first text that an asked source has by itself. -/
theorem text_lookup : (c.lookup store element asWritten).value.map Prod.snd =
    (c.asked store element asWritten).findSome? fun x => x.2.ownText? store element asWritten := by
  rw [value_lookup, map_snd_findSome?, ← findSome?_listingFrom 0]
  exact (findSome?_upTo _ _).symm

theorem places_lookup : (c.lookup store element asWritten).places =
    (c.asked store element asWritten).map Prod.fst := by
  rw [Traced.places, steps_lookup, places_stepsAt]
  rfl

theorem pairwise_asked :
    (c.asked store element asWritten).Pairwise fun x y => x.1 < y.1 :=
  (pairwise_listingFrom c.sources).sublist (upTo_sublist _ _)

theorem at?_of_mem_asked {x : List Nat × Source} (h : x ∈ c.asked store element asWritten) :
    Source.at? x.1 c.sources = some x.2 :=
  (mem_listingFrom_zero_iff c.sources).1 ((upTo_sublist _ _).subset h)

/-- A place is asked unless a source at an earlier one has a text by itself. -/
theorem mem_asked_iff {place : List Nat} {source : Source} :
    (place, source) ∈ c.asked store element asWritten ↔
      Source.at? place c.sources = some source ∧
        ∀ earlier other, Source.at? earlier c.sources = some other → earlier < place →
          other.ownText? store element asWritten = none := by
  rw [asked, mem_upTo_iff _ (fun x => List.lt_irrefl x.1) (fun x y => List.lt_asymm)
    (pairwise_listingFrom c.sources), mem_listingFrom_zero_iff]
  refine and_congr_right fun _ => ?_
  simp only [Prod.forall, mem_listingFrom_zero_iff, answersAt, Bool.not_eq_true,
    Option.isSome_eq_false_iff, Option.isNone_iff_eq_none]

/-- What the asked sources have can be read off the places. -/
theorem filterMap_places {γ : Type} (g : Source → Option γ) :
    (c.lookup store element asWritten).places.filterMap
        (fun place => (Source.at? place c.sources).bind g) =
      (c.asked store element asWritten).filterMap fun x => g x.2 := by
  rw [places_lookup, List.filterMap_map]
  refine List.filterMap_congr fun x hx => ?_
  rw [Function.comp_apply, at?_of_mem_asked c store element asWritten hx, Option.bind_some]

/-- **The course of a lookup.** The places asked are in order, and each of them is asked unless an
earlier source has a text by itself; the answer is the first such text. The paths opened are those
of the pages of the sources asked, and exactly the broken ones among them are reported, in the
same order. -/
theorem lookup_course :
    let found := c.lookup store element asWritten
    found.places.Pairwise (· < ·) ∧
    (∀ place, place ∈ found.places ↔ (Source.at? place c.sources).isSome ∧
      ∀ earlier source, Source.at? earlier c.sources = some source → earlier < place →
        source.ownText? store element asWritten = none) ∧
    found.value.map Prod.snd = (found.places.findSome? fun place =>
      (Source.at? place c.sources).bind (ownText? store element asWritten)) ∧
    found.paths = (found.places.filterMap fun place =>
      (Source.at? place c.sources).bind (pagePath? element asWritten)) ∧
    List.Forall₂ Event.TellsOf (found.paths.filter store.isBroken) found.events := by
  intro found
  have hpaths : found.paths = (c.asked store element asWritten).filterMap fun x =>
      x.2.pagePath? element asWritten := by
    rw [Traced.paths, steps_lookup, paths_stepsAt]
  refine ⟨?_, fun place => ?_, ?_, ?_, ?_⟩
  · rw [places_lookup]
    exact List.pairwise_map.2 (c.pairwise_asked store element asWritten)
  · rw [places_lookup, List.mem_map]
    constructor
    · rintro ⟨⟨place, source⟩, hx, rfl⟩
      obtain ⟨hat, hbefore⟩ := (c.mem_asked_iff store element asWritten).1 hx
      exact ⟨by simp [hat], hbefore⟩
    · rintro ⟨hat, hbefore⟩
      obtain ⟨source, hat⟩ := Option.isSome_iff_exists.1 hat
      exact ⟨(place, source), (c.mem_asked_iff store element asWritten).2 ⟨hat, hbefore⟩, rfl⟩
  · rw [text_lookup, ← List.head?_filterMap, ← List.head?_filterMap, filterMap_places]
  · rw [hpaths, filterMap_places]
  · rw [hpaths, Traced.events, steps_lookup]
    exact events_stepsAt [] _

end Chain

end ShellPages
