import ShellPages.Event
import ShellPages.Page.Store
import ShellPages.Text.Utf8

/-!
# Loading pages

`tryPage` finds the page for a key below a base, reads it to its end and decodes it. Nothing at
the path is an answer; a resource that exists and cannot be read is a fault. `page` gives no text
in that case and reports the fault as an event. `read` and `load` are what comes out of them.

A lookup is more than its answer: which sources it asked, which paths it looked at in the store
and which events it reported, in order. `Traced` keeps these steps beside a value. The store and
the sink each see some of the steps only: `paths` and `events` are what they see.
-/

namespace ShellPages

/-! ## Lookups with their steps -/

/-- One step of a lookup. -/
inductive Step where
  /-- The source at a place was asked. A place is a position in a chain, followed by positions in
  the chains nested there. -/
  | asked (place : List Nat) (name : String)
  /-- The store was asked for a path. -/
  | opened (path : String)
  /-- An event was reported. -/
  | reported (event : Event)
  deriving DecidableEq, Repr

namespace Step

/-- The path that a step looks at. -/
def path? : Step → Option String
  | opened path => some path
  | _ => none

/-- The event that a step reports. -/
def event? : Step → Option Event
  | reported event => some event
  | _ => none

/-- The place that a step asks. -/
def place? : Step → Option (List Nat)
  | asked place _ => some place
  | _ => none

end Step

/-- A value and the steps that led to it. -/
structure Traced (α : Type) where
  value : α
  steps : List Step
  deriving Repr

namespace Traced

variable {α β : Type}

/-- A single step. -/
def step (s : Step) : Traced Unit := ⟨(), [s]⟩

instance : Monad Traced where
  pure a := ⟨a, []⟩
  bind x f := let y := f x.value; ⟨y.value, x.steps ++ y.steps⟩

/-- The paths looked at, in order. -/
def paths (x : Traced α) : List String := x.steps.filterMap Step.path?

/-- The events reported, in order. -/
def events (x : Traced α) : List Event := x.steps.filterMap Step.event?

/-- The places asked, in order. -/
def places (x : Traced α) : List (List Nat) := x.steps.filterMap Step.place?

@[simp] theorem value_pure (a : α) : (pure a : Traced α).value = a := rfl

@[simp] theorem steps_pure (a : α) : (pure a : Traced α).steps = [] := rfl

@[simp] theorem value_bind (x : Traced α) (f : α → Traced β) :
    (x >>= f).value = (f x.value).value := rfl

@[simp] theorem steps_bind (x : Traced α) (f : α → Traced β) :
    (x >>= f).steps = x.steps ++ (f x.value).steps := rfl

@[simp] theorem steps_step (s : Step) : (step s).steps = [s] := rfl

@[simp] theorem paths_pure (a : α) : (pure a : Traced α).paths = [] := rfl

@[simp] theorem paths_bind (x : Traced α) (f : α → Traced β) :
    (x >>= f).paths = x.paths ++ (f x.value).paths := List.filterMap_append

@[simp] theorem events_pure (a : α) : (pure a : Traced α).events = [] := rfl

@[simp] theorem events_bind (x : Traced α) (f : α → Traced β) :
    (x >>= f).events = x.events ++ (f x.value).events := List.filterMap_append

@[simp] theorem places_pure (a : α) : (pure a : Traced α).places = [] := rfl

@[simp] theorem places_bind (x : Traced α) (f : α → Traced β) :
    (x >>= f).places = x.places ++ (f x.value).places := List.filterMap_append

end Traced

/-! ## Pages -/

/-- Why a resource could not be read. -/
inductive ReadCause where
  | failed (reason : String)
  | undecodable (fault : Text.DecodeFault)
  deriving DecidableEq, Repr

/-- A resource that exists and could not be read. -/
structure ReadFault where
  path : String
  cause : ReadCause
  deriving DecidableEq, Repr

namespace ReadFault

/-- The text of a fault. -/
def message (f : ReadFault) : String :=
  match f.cause with
  | .failed reason => s!"failed to read {f.path}: {reason}"
  | .undecodable fault => s!"{f.path} is not valid UTF-8: {fault.message}"

/-- The event that reports a fault. -/
def event (f : ReadFault) : Event :=
  ⟨.debug, "resource", s!"Failed to read documentation: {f.message}"⟩

end ReadFault

namespace Resource

/-- All bytes of a resource as text. -/
def text (path : String) : Resource → Except ReadFault String
  | whole bytes => (Text.decode bytes).mapError fun fault => ⟨path, .undecodable fault⟩
  | closed reason | cutOff _ reason => .error ⟨path, .failed reason⟩

end Resource

namespace Store

/-- What the store has at a path, which is a step of a lookup. -/
def visit (store : Store) (path : String) : Traced (Option Resource) := do
  Traced.step (.opened path)
  pure (store.find? path)

/-- Try to read the page for a key below a base. Where the base or the key is empty, or the store
has nothing, there is no text and no fault. -/
def tryPage (store : Store) (base key : String) : Traced (Except ReadFault (Option String)) :=
  match Page.path? base key with
  | none => pure (.ok none)
  | some path => do
    match ← store.visit path with
    | none => pure (.ok none)
    | some resource => pure ((resource.text path).map some)

/-- Read the page for a key below a base. A fault is reported, and there is no text then. -/
def page (store : Store) (base key : String) : Traced (Option String) := do
  match ← store.tryPage base key with
  | .ok text => pure text
  | .error fault =>
    Traced.step (.reported fault.event)
    pure none

/-- The text of the page for a key below a base, or why it cannot be read. -/
def read (store : Store) (base key : String) : Except ReadFault (Option String) :=
  (store.tryPage base key).value

/-- The text of the page for a key below a base, and the events of the attempt. -/
def load (store : Store) (base key : String) : Option String × List Event :=
  ((store.page base key).value, (store.page base key).events)

end Store

end ShellPages
