import ShellPages.Construct
import ShellPages.Page.Loading
import ShellPages.Text.Edit

/-!
# Chains of sources

A source may produce documentation for a construct or decline. A chain asks its sources in order;
the first that has text wins, and those after it are not asked. A chain is a source itself, so
that chains nest.

The policy of a source decides whether it answers for a construct, and under which key the page of
the construct is kept. The two stock policies share the commands out: those the shell implements
itself, and all others. Their keys are plain file names, which cannot leave a base.
-/

namespace ShellPages

/-! ## Policies -/

/-- The commands that the shell implements itself. -/
def builtinCommands : List String :=
  [".", ":", "[", "alias", "bg", "bind", "break", "builtin", "caller", "cd", "command", "compgen",
   "complete", "compopt", "continue", "declare", "dirs", "disown", "echo", "enable", "eval",
   "exec", "exit", "export", "false", "fc", "fg", "getopts", "hash", "help", "history", "jobs",
   "kill", "let", "local", "logout", "mapfile", "popd", "printf", "pushd", "pwd", "read",
   "readarray", "readonly", "return", "set", "shift", "shopt", "source", "suspend", "test",
   "times", "trap", "true", "type", "typeset", "ulimit", "umask", "unalias", "unset", "wait"]

/-- Whether a command is implemented by the shell itself. -/
def isBuiltinCommand (name : String) : Bool :=
  builtinCommands.contains name

/-- The characters with which a key may begin. -/
def isKeyStart (c : Char) : Bool :=
  c.isAlphanum || c == '_' || c == '+' || c == '-'

/-- The characters that may follow in a key. -/
def isKeyPart (c : Char) : Bool :=
  isKeyStart c || c == '.'

/-- Whether a key is a plain file name: no separators, no dot in front. -/
def isValidKey (key : String) : Bool :=
  match key.toList with
  | [] => false
  | c :: rest => isKeyStart c && rest.all isKeyPart

/-- The key of a command: its name without blanks around it, if that is a plain file name. -/
def commandKey? (element : Construct) : Option String :=
  let name := Text.trim element.text
  if isValidKey name then some name else none

/-- Which constructs a source documents, and where their pages are. -/
structure Policy where
  /-- Whether the source answers for an occurrence. The second construct is the occurrence as it
  was written before it was resolved, if it was. -/
  applies : Construct → Option Construct → Bool
  /-- The key of the page of an occurrence. -/
  key? : Construct → Option String

namespace Policy

/-- Commands that the shell implements itself. -/
def builtin : Policy where
  applies element _ := element.isCommand && isBuiltinCommand (Text.trim element.text)
  key? := commandKey?

/-- All other commands. -/
def external : Policy where
  applies element _ :=
    let name := Text.trim element.text
    element.isCommand && !name.isEmpty && !isBuiltinCommand name
  key? := commandKey?

end Policy

/-! ## Sources and chains -/

/-- Something that may have documentation for a construct. -/
inductive Source where
  /-- Pages below a base, one for each key that the policy derives. -/
  | pages (name base : String) (policy : Policy)
  /-- The same answer for every construct. -/
  | fixed (name : String) (answer : Option String)
  /-- The sources of a chain, in order. -/
  | nested (members : List Source)

namespace Source

/-- The name of every chain. -/
def chainName : String := "chain"

/-- The name of a source in reports. -/
def name : Source → String
  | pages name _ _ => name
  | fixed name _ => name
  | nested _ => chainName

/-- The keys that have a page below the base of a source of pages. -/
def keys (store : Store) : Source → List String
  | pages _ base _ => store.keys base
  | fixed .. | nested _ => []

/-- Find the page of a construct below a base. -/
def findPage (store : Store) (base : String) (policy : Policy) (element : Construct)
    (asWritten : Option Construct) : Traced (Option String) :=
  if policy.applies element asWritten then
    match policy.key? element with
    | none => pure none
    | some key => if key.isEmpty then pure none else store.page base key
  else pure none

mutual

/-- Ask the source at a place. -/
def ask (store : Store) (element : Construct) (asWritten : Option Construct) (place : List Nat) :
    Source → Traced (Option String)
  | pages name base policy => do
    Traced.step (.asked place name)
    findPage store base policy element asWritten
  | fixed name answer => do
    Traced.step (.asked place name)
    pure answer
  | nested members => do
    Traced.step (.asked place chainName)
    let found ← askEach store element asWritten place 0 members
    pure (found.map Prod.snd)

/-- Ask sources in order, the first of which stands at the given position of the chain at a
place, until one answers. The answer is the name of that source and its text. -/
def askEach (store : Store) (element : Construct) (asWritten : Option Construct)
    (place : List Nat) (position : Nat) : List Source → Traced (Option (String × String))
  | [] => pure none
  | source :: rest => do
    match ← ask store element asWritten (place ++ [position]) source with
    | some text => pure (some (source.name, text))
    | none => askEach store element asWritten place (position + 1) rest

end

/-- The source at a place of a chain with the given members. -/
def at? : List Nat → List Source → Option Source
  | [], _ => none
  | [position], members => members[position]?
  | position :: place, members =>
    match members[position]? with
    | some (nested inner) => at? place inner
    | _ => none

end Source

/-- Sources in the order in which they are asked. -/
structure Chain where
  sources : List Source := []

namespace Chain

/-- The base of the pages of builtins. -/
def builtinBase : String := "documentation/internal"

/-- The base of the pages of other commands. -/
def externalBase : String := "documentation/external"

/-- Pages of builtins first, then those of other commands. -/
def standard : Chain :=
  ⟨[.pages "builtin" builtinBase .builtin, .pages "external" externalBase .external]⟩

/-- A chain with one more source, which is asked last. -/
def append (c : Chain) (source : Source) : Chain :=
  ⟨c.sources ++ [source]⟩

/-- The chain as a source. -/
def toSource (c : Chain) : Source :=
  .nested c.sources

/-- The names of the sources. -/
def names (c : Chain) : List String :=
  c.sources.map Source.name

/-- Documentation from the first source that has some, with the name of that source. -/
def lookup (c : Chain) (store : Store) (element : Construct) (asWritten : Option Construct) :
    Traced (Option (String × String)) :=
  Source.askEach store element asWritten [] 0 c.sources

/-- Documentation from the first source that has some. -/
def text? (c : Chain) (store : Store) (element : Construct) (asWritten : Option Construct) :
    Traced (Option String) := do
  let found ← c.lookup store element asWritten
  pure (found.map Prod.snd)

end Chain

end ShellPages
