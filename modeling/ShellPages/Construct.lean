import ShellPages.Text.Letter

/-!
# Constructs

A construct is a language element at a place in a script: its kind, its literal text and the
bytes it covers. Documentation is asked for constructs.
-/

namespace ShellPages

/-- The bytes of a document that a construct covers, from `start` up to but without `stop`. -/
structure Span where
  start : UInt64 := 0
  stop : UInt64 := 0
  deriving DecidableEq, Repr, Inhabited

namespace Span

/-- How many bytes a span covers; none if it is inverted. -/
def length (s : Span) : Nat :=
  s.stop.toNat - s.start.toNat

/-- A span that covers nothing. -/
def isEmpty (s : Span) : Bool :=
  s.length == 0

/-- The span of a text that starts a document. -/
def ofText (text : String) : Span :=
  ⟨0, text.utf8ByteSize.toUInt64⟩

end Span

/-- What kind of language element a construct is. -/
inductive Kind where
  /-- An invocation of a builtin or of an external command. -/
  | command
  | keyword
  | operator
  | variable
  | other
  deriving DecidableEq, Repr, Inhabited

namespace Kind

/-- Every kind, in order. -/
def all : List Kind := [command, keyword, operator, «variable», other]

/-- The name of a kind. -/
def name : Kind → String
  | command => "command"
  | keyword => "keyword"
  | operator => "operator"
  | «variable» => "variable"
  | other => "other"

/-- The kind of the given name. -/
def ofName? (name : String) : Option Kind :=
  all.find? fun k => k.name == name

/-- Read a kind without regard to case. -/
def parse? (text : String) : Option Kind :=
  ofName? (Text.lower text)

/-- What is said of a text that is no kind. -/
def unknownMessage (text : String) : String :=
  s!"unknown construct kind: {text}"

end Kind

/-- A language element at a place in a document. -/
structure Construct where
  kind : Kind
  /-- The literal text, such as `echo`. -/
  text : String
  span : Span := {}
  deriving DecidableEq, Repr, Inhabited

namespace Construct

/-- An occurrence of the given kind at the start of a document. -/
def ofText (kind : Kind) (text : String) : Construct :=
  ⟨kind, text, .ofText text⟩

/-- A command at the start of a document. -/
def command (text : String) : Construct :=
  .ofText .command text

/-- Whether a construct is the invocation of a command. -/
def isCommand (c : Construct) : Bool :=
  c.kind == .command

end Construct

end ShellPages
