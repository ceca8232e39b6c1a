import ShellPages.Yaml.Cell

/-!
# Tokens and nodes

A document is made of tokens: scalars, aliases and what is said of nodes, and the marks of their
order, some of which stand for the indentation of lines.

The tokens make up a tree of nodes: scalars, sequences and mappings. A node may have a tag and an
anchor, and where an anchor is known, an alias may stand for its node. A text that goes wrong at
some place has nodes up to there. The last of them are not whole: they are broken, or lack their
end.
-/

namespace ShellPages.Yaml

/-! ## Tokens -/

/-- How a scalar is written. -/
inductive ScalarStyle where
  | plain
  | quoted
  /-- On lines of its own. -/
  | block
  deriving DecidableEq, Repr

/-- A tag as it is written: a handle, which stands for the beginning of the tag, and the rest. -/
structure TagText where
  handle : String
  rest : List UInt8
  deriving DecidableEq, Repr

/-- A token. -/
inductive Token where
  | versionDirective (major minor : Nat)
  | tagDirective (handle : String) (beginning : List UInt8)
  | documentStart
  | documentEnd
  | blockSequenceStart
  | blockMappingStart
  | blockEnd
  | flowSequenceStart
  | flowSequenceEnd
  | flowMappingStart
  | flowMappingEnd
  | blockEntry
  | flowEntry
  | key
  | value
  | alias (name : String)
  | anchor (name : String)
  | tag (tag : TagText)
  | scalar (value : String) (style : ScalarStyle)
  | streamEnd
  deriving DecidableEq, Repr

/-- A token with the places where it begins and ends. -/
structure Lexeme where
  token : Token
  start : Mark
  stop : Mark
  deriving DecidableEq, Repr

/-! ## Nodes -/

mutual

/-- A node in a document whose anchors are of the given type. -/
inductive Node (α : Type) where
  | mk (mark : Mark) (tag : Option (List UInt8)) (anchor : Option α) (content : Content α)

/-- What a node holds. -/
inductive Content (α : Type) where
  /-- Nothing that can be read. -/
  | broken
  | alias (anchor : α)
  | scalar (value : String) (style : ScalarStyle)
  /-- Items, of which only the last may not be whole. The sequence may lack its end. -/
  | sequence (items : List (Node α)) (closed : Bool)
  /-- Keys and values, of which only the last may not be whole. The mapping may lack its end. -/
  | mapping (members : List (Node α × Node α)) (closed : Bool)

end

namespace Node

variable {α : Type}

/-- The place where a node begins. -/
def mark : Node α → Mark
  | mk mark .. => mark

/-- The tag of a node. -/
def tag : Node α → Option (List UInt8)
  | mk _ tag .. => tag

/-- The anchor of a node. -/
def anchor : Node α → Option α
  | mk _ _ anchor _ => anchor

/-- What a node holds. -/
def content : Node α → Content α
  | mk _ _ _ content => content

/-- A node without text. -/
def empty (mark : Mark) : Node α :=
  mk mark none none (.scalar "" .plain)

/-- A node of which nothing can be read. -/
def broken : Node α :=
  mk {} none none .broken

/-- Whether a node goes to its end. -/
def isWhole (n : Node α) : Bool :=
  match n.content with
  | .broken => false
  | .sequence _ closed | .mapping _ closed => closed
  | .alias _ | .scalar .. => true

end Node

end ShellPages.Yaml
