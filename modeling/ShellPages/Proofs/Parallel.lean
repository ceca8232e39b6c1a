import Mathlib.Data.Set.List
import Mathlib.Logic.Relation
import ShellPages.Proofs.Source.Inquiry
import ShellPages.Source.Summary

/-!
# Names that are looked up at the same time

In a `Round`, inquiries are carried out at the same time over one store and with one sink. In each
step of it, one of them takes its next step (`Round.Goes`), and nothing says which one. A step
changes no answer that is going to be found, and takes one of the steps that are left
(`Goes.values_eq`, `Goes.perm`), so a whole run finds the answers that the inquiries have by
themselves and takes the steps that they take by themselves, in some order (`Runs.values_eq`,
`Runs.perm`). Every step leaves fewer to take, so every run can be carried on to an end
(`exists_runs_ends`).

The main statement, `names_resolved_apart`, draws the conclusion for names that are resolved by a
chain, of the sources that are described by `Source` or of any sources that keep no state.
-/

namespace ShellPages

namespace Inquiry

variable {α : Type} {store : Store} {q r : Inquiry α} {s : Step}

/-! ## One inquiry -/

/-- An inquiry takes its next step. -/
inductive Takes (store : Store) : Inquiry α → Step → Inquiry α → Prop
  | look (path : String) (next : Option Resource → Inquiry α) :
    Takes store (look path next) (.opened path) (next (store.find? path))
  | report (event : Event) (next : Inquiry α) :
    Takes store (report event next) (.reported event) next

theorem Takes.value_eq (h : Takes store q s r) :
    (r.carryOut store).value = (q.carryOut store).value := by
  cases h <;> rfl

theorem Takes.steps_eq (h : Takes store q s r) :
    (q.carryOut store).steps = s :: (r.carryOut store).steps := by
  cases h <;> rfl

/-- An inquiry that takes no step has its answer. -/
theorem exists_takes_or_answer (store : Store) (q : Inquiry α) :
    (∃ s r, Takes store q s r) ∨ ∃ a, q = answer a := by
  cases q with
  | answer a => exact .inr ⟨a, rfl⟩
  | look path next => exact .inl ⟨_, _, .look path next⟩
  | report event next => exact .inl ⟨_, _, .report event next⟩

/-- Inquiries one after the other. -/
def inTurn : List (Inquiry α) → Inquiry (List α)
  | [] => pure []
  | q :: rest => do
    let a ← q
    let others ← inTurn rest
    pure (a :: others)

theorem value_inTurn (inquiries : List (Inquiry α)) :
    ((inTurn inquiries).carryOut store).value =
      inquiries.map fun q => (q.carryOut store).value := by
  induction inquiries with
  | nil => rfl
  | cons q rest ih =>
    simp only [inTurn, carryOut_bind, Traced.value_bind, carryOut_pure, Traced.value_pure, ih,
      List.map_cons]

theorem steps_inTurn (inquiries : List (Inquiry α)) :
    ((inTurn inquiries).carryOut store).steps =
      inquiries.flatMap fun q => (q.carryOut store).steps := by
  induction inquiries with
  | nil => rfl
  | cons q rest ih =>
    simp only [inTurn, carryOut_bind, Traced.steps_bind, carryOut_pure, Traced.steps_pure, ih,
      List.append_nil, List.flatMap_cons]

end Inquiry

/-! ## Inquiries at the same time -/

/-- Inquiries that are carried out at the same time, over one store and with one sink. -/
structure Round (α : Type) where
  /-- What is left of the inquiries, each at its position. -/
  inquiries : List (Inquiry α)
  /-- The steps that have been taken, in the order in which they were. -/
  steps : List Step := []

namespace Round

variable {α : Type} {store : Store} {r next last : Round α} {results : List α}

/-- The events that the sink has received, in the order in which it has. -/
def events (r : Round α) : List Event :=
  r.steps.filterMap Step.event?

/-- One of the inquiries, whichever it is, takes its next step. -/
inductive Goes (store : Store) : Round α → Round α → Prop
  | on (before after : List (Inquiry α)) (steps : List Step) {q q' : Inquiry α} {s : Step}
    (h : q.Takes store s q') :
    Goes store ⟨before ++ q :: after, steps⟩ ⟨before ++ q' :: after, steps ++ [s]⟩

/-- What a round may come to. -/
def Runs (store : Store) : Round α → Round α → Prop :=
  Relation.ReflTransGen (Goes store)

/-- All inquiries have their answers, which are the results. -/
def Ends (r : Round α) (results : List α) : Prop :=
  r.inquiries = results.map .answer

/-- The answers that are going to be found. -/
def values (store : Store) (r : Round α) : List α :=
  r.inquiries.map fun q => (q.carryOut store).value

/-- The steps that are left. -/
def pending (store : Store) (r : Round α) : List Step :=
  r.inquiries.flatMap fun q => (q.carryOut store).steps

theorem Goes.values_eq (h : Goes store r next) : next.values store = r.values store := by
  cases h with
  | on before after steps h => simp [values, h.value_eq]

/-- A step takes one of the steps that are left. -/
theorem Goes.perm (h : Goes store r next) :
    (next.steps ++ next.pending store).Perm (r.steps ++ r.pending store) := by
  cases h with
  | on before after steps h =>
    simp only [pending, List.flatMap_append, List.flatMap_cons, h.steps_eq, List.append_assoc,
      List.cons_append, List.nil_append]
    exact List.perm_middle.symm.append_left steps

theorem Goes.length_pending_lt (h : Goes store r next) :
    (next.pending store).length < (r.pending store).length := by
  cases h with
  | on before after steps h => simp [pending, h.steps_eq]

theorem Runs.values_eq (h : Runs store r next) : next.values store = r.values store := by
  induction h with
  | refl => rfl
  | tail _ hgoes ih => exact hgoes.values_eq.trans ih

theorem Runs.perm (h : Runs store r next) :
    (next.steps ++ next.pending store).Perm (r.steps ++ r.pending store) := by
  induction h with
  | refl => exact .refl _
  | tail _ hgoes ih => exact hgoes.perm.trans ih

theorem Ends.values_eq (h : r.Ends results) : r.values store = results := by
  rw [values, h, List.map_map]
  exact List.map_id results

theorem Ends.pending_eq_nil (h : r.Ends results) : r.pending store = [] := by
  rw [pending, h, List.flatMap_map]
  exact List.flatMap_eq_nil_iff.2 fun _ _ => rfl

/-- A round that does not go on has ended. -/
theorem exists_goes_or_ends (store : Store) (r : Round α) :
    (∃ next, Goes store r next) ∨ ∃ results, r.Ends results := by
  obtain ⟨inquiries, steps⟩ := r
  by_cases h : ∃ q ∈ inquiries, ∃ s q', q.Takes store s q'
  · obtain ⟨q, hq, s, q', htakes⟩ := h
    obtain ⟨before, after, rfl⟩ := List.append_of_mem hq
    exact .inl ⟨_, .on before after steps htakes⟩
  · have hanswers : ∀ q ∈ inquiries, q ∈ Set.range Inquiry.answer := by
      intro q hq
      obtain ⟨s, q', htakes⟩ | ⟨a, rfl⟩ := Inquiry.exists_takes_or_answer store q
      · exact absurd ⟨q, hq, s, q', htakes⟩ h
      · exact ⟨a, rfl⟩
    obtain ⟨results, hresults⟩ : inquiries ∈ Set.range (List.map Inquiry.answer) := by
      rw [Set.range_list_map]
      exact hanswers
    exact .inr ⟨results, hresults.symm⟩

/-- Every round can be carried on to an end. -/
theorem exists_runs_ends (store : Store) (r : Round α) :
    ∃ last results, Runs store r last ∧ last.Ends results := by
  obtain ⟨next, hgoes⟩ | ⟨results, hends⟩ := exists_goes_or_ends store r
  · have hless := hgoes.length_pending_lt
    obtain ⟨last, results, hruns, hends⟩ := exists_runs_ends store next
    exact ⟨last, results, .head hgoes hruns, hends⟩
  · exact ⟨r, results, .refl, hends⟩
termination_by (r.pending store).length

/-- A run that has come to its end has found what the inquiries find one after the other, and has
taken the same steps in some order. -/
theorem Runs.of_ends {inquiries : List (Inquiry α)} (h : Runs store ⟨inquiries, []⟩ last)
    (hends : last.Ends results) :
    results = ((Inquiry.inTurn inquiries).carryOut store).value ∧
      last.steps.Perm ((Inquiry.inTurn inquiries).carryOut store).steps := by
  rw [Inquiry.value_inTurn, Inquiry.steps_inTurn]
  have hperm := h.perm
  rw [hends.pending_eq_nil, List.append_nil, List.nil_append] at hperm
  exact ⟨hends.values_eq.symm.trans h.values_eq, hperm⟩

end Round

/-! ## Names -/

/-- An entry for a name: it has the name and the kind, and a source exactly if there is
documentation. -/
structure Resolution.IsEntry (kind : Kind) (name : String) (r : Resolution) : Prop where
  name : r.name = name
  kind : r.kind = kind
  sourced : r.source.isSome ↔ r.documentation.isSome

/-- Look up a name in sources of any kind. -/
def AnySource.resolveName {m : Type → Type} [Monad m] (members : List (AnySource m)) (kind : Kind)
    (asWritten : Option String) (name : String) : m Resolution := do
  let found ← askEach (.ofText kind name) (asWritten.map (.ofText kind)) members
  pure ⟨name, kind, found.map Prod.fst, found.map Prod.snd⟩

/-- The inquiry of a chain for a name. -/
def Chain.inquiry (c : Chain) (kind : Kind) (asWritten : Option String) (name : String) :
    Inquiry Resolution :=
  AnySource.resolveName (Source.statelessEach c.sources) kind asWritten name

/-- Names are resolved independently of one another and in order. What resolves them does, as far
as it can be seen, what their inquiries do one after the other. -/
structure ResolvesApart (store : Store) (kind : Kind)
    (resolve : List String → Traced (List Resolution)) (inquiry : String → Inquiry Resolution) :
    Prop where
  inTurn : ∀ names,
    (resolve names).outward = (Inquiry.inTurn (names.map inquiry)).carryOut store
  /-- What names resolve to does not depend on those before or after them. -/
  append : ∀ xs ys, (resolve (xs ++ ys)).value = (resolve xs).value ++ (resolve ys).value
  /-- There is an entry for each name, in order. -/
  entries : ∀ names, List.Forall₂ (Resolution.IsEntry kind) names (resolve names).value
  /-- If all names are looked up at the same time, all of them are answered in the end. -/
  answered : ∀ (names : List String) r, Round.Runs store ⟨names.map inquiry, []⟩ r →
    ∃ last results, Round.Runs store r last ∧ last.Ends results
  /-- In whichever order that is done, the results are the same, and so are the events up to their
  order. -/
  anyOrder : ∀ (names : List String) last results, Round.Runs store ⟨names.map inquiry, []⟩ last →
    last.Ends results →
    results = (resolve names).value ∧ last.events.Perm (resolve names).events

variable {store : Store} {kind : Kind} {asWritten : Option String} {name : String}

/-- Whatever does what inquiries for entries do one after the other resolves names apart. -/
theorem resolvesApart_of_inTurn {resolve : List String → Traced (List Resolution)}
    {inquiry : String → Inquiry Resolution}
    (hturn : ∀ names,
      (resolve names).outward = (Inquiry.inTurn (names.map inquiry)).carryOut store)
    (hentry : ∀ name, ((inquiry name).carryOut store).value.IsEntry kind name) :
    ResolvesApart store kind resolve inquiry := by
  have hvalue (names : List String) :
      (resolve names).value = names.map fun name => ((inquiry name).carryOut store).value := by
    rw [← Traced.value_outward, hturn, Inquiry.value_inTurn, List.map_map]
    rfl
  refine ⟨hturn, fun xs ys => ?append, fun names => ?entries, fun names r _ => ?answered,
    fun names last results hruns hends => ?anyOrder⟩
  case append => rw [hvalue, hvalue, hvalue, List.map_append]
  case entries =>
    rw [hvalue, List.forall₂_map_right_iff, List.forall₂_same]
    exact fun name _ => hentry name
  case answered => exact Round.exists_runs_ends store r
  case anyOrder =>
    obtain ⟨hresults, hsteps⟩ := hruns.of_ends hends
    rw [← hturn] at hresults hsteps
    rw [← Traced.events_outward]
    exact ⟨hresults, hsteps.filterMap _⟩

theorem AnySource.isEntry_resolveName (members : List (AnySource Inquiry)) :
    ((resolveName members kind asWritten name).carryOut store).value.IsEntry kind name := by
  have hsourced (found : Option (String × String)) :
      (found.map Prod.fst).isSome ↔ (found.map Prod.snd).isSome := by
    rw [Option.isSome_map, Option.isSome_map]
  rw [resolveName, Inquiry.carryOut_bind]
  exact ⟨rfl, rfl, hsourced _⟩

namespace Chain

variable (c : Chain)

theorem outward_resolveName :
    (c.resolveName store kind asWritten name).outward =
      (c.inquiry kind asWritten name).carryOut store := by
  rw [resolveName, Traced.outward_bind, outward_lookup_eq_askEach, inquiry, AnySource.resolveName,
    Inquiry.carryOut_bind, Source.carryOut_askEach]
  rfl

theorem outward_resolveNames (names : List String) :
    (c.resolveNames store kind asWritten names).outward =
      (Inquiry.inTurn (names.map (c.inquiry kind asWritten))).carryOut store := by
  induction names with
  | nil => rfl
  | cons name rest ih =>
    rw [resolveNames, Traced.outward_bind, outward_resolveName, List.map_cons, Inquiry.inTurn,
      Inquiry.carryOut_bind]
    refine bind_congr fun resolution => ?_
    rw [Traced.outward_bind, ih, Inquiry.carryOut_bind]
    rfl

end Chain

/-- **Names are resolved apart.** For a chain over a store, the results for names are those for
a part of the names and then those for the rest. They have an entry for each name, in order, with a
source exactly if there is documentation. If all names are looked up at the same time, with the
steps of their lookups in whatever order, all lookups end, with the same results and, up to their
order, the same events. All this holds for chains of any sources that keep no state. -/
theorem names_resolved_apart (store : Store) (kind : Kind) (asWritten : Option String) :
    (∀ c : Chain, ResolvesApart store kind (c.resolveNames store kind asWritten)
      (c.inquiry kind asWritten)) ∧
    ∀ members : List (AnySource Inquiry),
      let inquiry := AnySource.resolveName members kind asWritten
      ResolvesApart store kind
        (fun names => (Inquiry.inTurn (names.map inquiry)).carryOut store) inquiry := by
  constructor
  · intro c
    exact resolvesApart_of_inTurn c.outward_resolveNames fun name =>
      AnySource.isEntry_resolveName _
  · intro members inquiry
    exact resolvesApart_of_inTurn (fun names => Inquiry.outward_carryOut _) fun name =>
      AnySource.isEntry_resolveName members

/-- A chain of one source, which has a page for every construct. -/
def Chain.everything : Chain where
  sources := [.pages "all" "docs" ⟨fun _ _ => true, fun element => some element.text⟩]

/-- Two names whose pages do not open. The second lookup overtakes the first one, and its event
comes first. -/
theorem names_resolved_apart_swapped :
    let store := Store.everywhere (.closed "gone")
    let names := ["ls", "rm"]
    let resolved := Chain.everything.resolveNames store .command none names
    ∃ last : Round Resolution,
      Round.Runs store ⟨names.map (Chain.everything.inquiry .command none), []⟩ last ∧
      last.Ends resolved.value ∧ last.events.Perm resolved.events ∧
      last.events ≠ resolved.events := by
  intro store names resolved
  obtain ⟨hchain, -⟩ := names_resolved_apart store .command none
  let fault (name : String) : ReadFault := ⟨"docs/" ++ name ++ ".html", .failed "gone"⟩
  let last : Round Resolution :=
    ⟨names.map fun name => .answer ⟨name, .command, none, none⟩,
      [.opened "docs/ls.html", .opened "docs/rm.html", .reported (fault "rm").event,
        .reported (fault "ls").event]⟩
  have hends : last.Ends resolved.value := rfl
  have hruns : Round.Runs store ⟨names.map (Chain.everything.inquiry .command none), []⟩ last :=
    .head (.on [] [_] _ (.look "docs/ls.html" _)) <|
    .head (.on [_] [] _ (.look "docs/rm.html" _)) <|
    .head (.on [_] [] _ (.report (fault "rm").event _)) <|
    .head (.on [] [_] _ (.report (fault "ls").event _)) .refl
  obtain ⟨-, hevents⟩ := (hchain .everything).anyOrder names last _ hruns hends
  exact ⟨last, hruns, hends, hevents, by decide⟩

end ShellPages
