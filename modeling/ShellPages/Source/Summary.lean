import ShellPages.Source.Chain
import ShellPages.Text.Quoted

/-!
# What a chain tells

Names are looked up one by one, each as a construct of the same kind at the start of a document of
its own. A resolution says what was found for a name, and by which source.

Developers are shown short descriptions of sources and chains, with their names quoted so that
nothing in them is invisible.
-/

namespace ShellPages

/-! ## Looking up names -/

/-- What was found for a name. -/
structure Resolution where
  name : String
  kind : Kind
  /-- The name of the source that answered. -/
  source : Option String := none
  documentation : Option String := none
  deriving DecidableEq, Repr, Inhabited

namespace Resolution

/-- Whether there is documentation. -/
def isFound (r : Resolution) : Bool :=
  r.documentation.isSome

end Resolution

namespace Chain

/-- Look up a name. -/
def resolveName (c : Chain) (store : Store) (kind : Kind) (asWritten : Option String)
    (name : String) : Traced Resolution := do
  let found ← c.lookup store (.ofText kind name) (asWritten.map (.ofText kind))
  pure ⟨name, kind, found.map Prod.fst, found.map Prod.snd⟩

/-- Look up names, one after the other. -/
def resolveNames (c : Chain) (store : Store) (kind : Kind) (asWritten : Option String) :
    List String → Traced (List Resolution)
  | [] => pure []
  | name :: rest => do
    let resolution ← c.resolveName store kind asWritten name
    let others ← c.resolveNames store kind asWritten rest
    pure (resolution :: others)

end Chain

/-! ## Summaries -/

/-- A description of a source. -/
def Source.summary : Source → String
  | pages name base _ =>
    "BundledDocSource \x7b name: " ++ Text.quoted name ++ ", prefix: " ++ Text.quoted base ++
      ", .. \x7d"
  | fixed name _ => Text.quoted name
  | nested members => Text.quotedList (members.map Source.name)

/-- A description of a chain: the names of its sources. -/
def Chain.summary (c : Chain) : String :=
  Text.quotedList c.names

/-- A description of what loads pages; it tells nothing of the store. -/
def Store.loaderSummary : String :=
  "TextLoader \x7b .. \x7d"

end ShellPages
