import ShellPages.Proofs.Source.Flattening

/-!
# Inquiries

A source that keeps no state answers a construct by an inquiry: what it does next depends on the
construct and on what it has found in the store so far, and on nothing else. An `Inquiry` says this
step by step, without a store. Carried out over a store, it becomes a lookup with its steps
(`Inquiry.carryOut`), and what is carried out after another inquiry is what comes after it
(`carryOut_bind`). So `AnySource Inquiry` are the sources of any kind that keep no state.

The sources of a chain are such sources (`Source.stateless`): over every store, asking them is
carrying out their inquiries, as far as it can be seen (`carryOut_askEach`).
-/

namespace ShellPages

/-- What is asked of a store and reported to a sink on the way to an answer. -/
inductive Inquiry (α : Type) where
  /-- The answer. -/
  | answer (a : α)
  /-- A look at a path of the store, and how it goes on with what is there. -/
  | look (path : String) (next : Option Resource → Inquiry α)
  /-- A report of an event, and how it goes on. -/
  | report (event : Event) (next : Inquiry α)

namespace Inquiry

variable {α β : Type}

/-- Go on with the answer of an inquiry. -/
def bind : Inquiry α → (α → Inquiry β) → Inquiry β
  | answer a, f => f a
  | look path next, f => look path fun found => (next found).bind f
  | report event next, f => report event (next.bind f)

instance : Monad Inquiry where
  pure := answer
  bind := bind

/-- Find the answer over a store. -/
def carryOut (store : Store) : Inquiry α → Traced α
  | answer a => pure a
  | look path next => do carryOut store (next (← store.visit path))
  | report event next => do
    Traced.step (.reported event)
    carryOut store next

variable {store : Store}

@[simp] theorem carryOut_pure (a : α) : (pure a : Inquiry α).carryOut store = pure a := rfl

theorem carryOut_bind (q : Inquiry α) (f : α → Inquiry β) :
    (q >>= f).carryOut store = q.carryOut store >>= fun a => (f a).carryOut store := by
  induction q with
  | answer a => exact (pure_bind a fun a => (f a).carryOut store).symm
  | look path next ih =>
    rw [carryOut, bind_assoc]
    exact bind_congr fun found => ih found
  | report event next ih =>
    rw [carryOut, bind_assoc]
    exact bind_congr fun _ => ih

theorem carryOut_map (f : α → β) (q : Inquiry α) :
    (f <$> q).carryOut store = f <$> q.carryOut store :=
  carryOut_bind q fun a => pure (f a)

theorem carryOut_firstOf (q r : Inquiry (Option α)) :
    (firstOf q r).carryOut store = firstOf (q.carryOut store) (r.carryOut store) := by
  rw [firstOf, carryOut_bind]
  refine bind_congr fun found => ?_
  cases found with
  | none => rfl
  | some a => rfl

/-- An inquiry does not tell which sources are asked. -/
theorem outward_carryOut (q : Inquiry α) : (q.carryOut store).outward = q.carryOut store := by
  induction q with
  | answer a => rfl
  | look path next ih =>
    rw [carryOut, Traced.outward_bind]
    exact bind_congr fun found => ih found
  | report event next ih =>
    rw [carryOut, Traced.outward_bind]
    exact bind_congr fun _ => ih

/-! ## Inquiries of sources -/

/-- Read what has been found at a path, if anything. -/
def readFound (path : String) : Option Resource → Inquiry (Option String)
  | none => pure none
  | some resource =>
    match resource.text path with
    | .ok text => pure (some text)
    | .error fault => report fault.event (pure none)

/-- Look for the page for a key below a base. -/
def page (base key : String) : Inquiry (Option String) :=
  match Page.path? base key with
  | none => pure none
  | some path => look path (readFound path)

/-- Look for the page of a construct below a base. -/
def findPage (base : String) (policy : Policy) (element : Construct)
    (asWritten : Option Construct) : Inquiry (Option String) :=
  if policy.applies element asWritten then
    match policy.key? element with
    | none => pure none
    | some key => if key.isEmpty then pure none else page base key
  else pure none

theorem carryOut_page (base key : String) :
    (page base key).carryOut store = store.page base key := by
  rw [page, Store.page, Store.tryPage]
  cases Page.path? base key with
  | none => rfl
  | some path =>
    rw [bind_assoc, carryOut]
    refine bind_congr fun found => ?_
    cases found with
    | none => rfl
    | some resource =>
      rw [pure_bind, readFound]
      cases resource.text path with
      | error fault => rfl
      | ok text => rfl

theorem carryOut_findPage (base : String) (policy : Policy) (element : Construct)
    (asWritten : Option Construct) :
    (findPage base policy element asWritten).carryOut store =
      Source.findPage store base policy element asWritten := by
  rw [findPage, Source.findPage]
  split
  · cases policy.key? element with
    | none => rfl
    | some key =>
      simp only
      split
      · rfl
      · exact carryOut_page base key
  · rfl

end Inquiry

namespace Source

mutual

/-- A source as one of any kind that keeps no state. -/
def stateless : Source → AnySource Inquiry
  | pages name base policy => .own ⟨name, Inquiry.findPage base policy⟩
  | fixed name answer => .own ⟨name, fun _ _ => pure answer⟩
  | nested members => .nested (statelessEach members)

/-- Sources as sources of any kind that keep no state. -/
def statelessEach : List Source → List (AnySource Inquiry)
  | [] => []
  | source :: rest => source.stateless :: statelessEach rest

end

variable {store : Store} {element : Construct} {asWritten : Option Construct}

theorem name_stateless (source : Source) : source.stateless.name = source.name := by
  cases source with
  | pages name base policy => rfl
  | fixed name answer => rfl
  | nested members => rfl

mutual

/-- Asking a source is carrying out its inquiry. -/
theorem carryOut_ask : ∀ source : Source,
    (source.stateless.ask element asWritten).carryOut store =
      (source.toAny store).ask element asWritten
  | pages name base policy => by
    have hseen : (ask store element asWritten [] (pages name base policy)).outward =
        (findPage store base policy element asWritten).outward := rfl
    refine (Inquiry.carryOut_findPage base policy element asWritten).trans (Eq.trans ?_ hseen.symm)
    rw [← Inquiry.carryOut_findPage, Inquiry.outward_carryOut]
  | fixed name answer => rfl
  | nested members => by
    rw [stateless, toAny, AnySource.ask, AnySource.ask, Inquiry.carryOut_map,
      carryOut_askEach members]

/-- Asking sources in order is carrying out the inquiry of all of them. -/
theorem carryOut_askEach : ∀ members : List Source,
    (AnySource.askEach element asWritten (statelessEach members)).carryOut store =
      AnySource.askEach element asWritten (toAnyEach store members)
  | [] => rfl
  | source :: rest => by
    rw [statelessEach, toAnyEach, AnySource.askEach, AnySource.askEach, Inquiry.carryOut_firstOf,
      Inquiry.carryOut_map, carryOut_ask source, carryOut_askEach rest, name_stateless,
      name_toAny]

end

end Source

end ShellPages
