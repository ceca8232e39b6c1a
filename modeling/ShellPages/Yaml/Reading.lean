import ShellPages.Data.Shape
import ShellPages.Decimal
import ShellPages.Text.Utf8
import ShellPages.Yaml.Document
import ShellPages.Yaml.Plain

/-!
# Reading data

`Yaml.read` reads a text as data of a shape. What does not fit is told with the path that leads
there and with its place in the text. Where a scalar without text stands for a record or a list,
that is one with nothing in it. A name out of a list may be given as a tag instead of a text.

An alias is read as the node that it stands for. Since aliases within such nodes make a small text
stand for a large one, they may be followed only so often, in proportion to the document.

The document is gone through in order, and the first thing that is wrong is the answer: data that
does not fit, or the place where the text goes wrong.
-/

namespace ShellPages.Yaml

open Data (Shape Presence FieldReader Misfit Found)

/-- Why a text cannot be read. -/
inductive Fault where
  /-- The text is not exactly one document. -/
  | malformed
  /-- Something does not fit; perhaps with the path of names and positions that leads there, and
  the place in the text. -/
  | misfit (m : Misfit) (place : Option (String × Mark))
  /-- Aliases have been followed too often. -/
  | tooManyAliases

/-- How values are spoken of. -/
def wording : Data.Wording where
  nothing := "unit value"
  real := Decimal.positional

/-- A place in words; none for the beginning of a text. -/
def Mark.describe (m : Mark) : String :=
  if m.line == 0 && m.column == 0 then ""
  else s!" at line {m.line + 1} column {m.column + 1}"

/-- The text of a fault. What is wrong with a text that is no document is not told in detail. -/
def Fault.message : Fault → String
  | malformed => "malformed document"
  | misfit m none => m.message wording
  | misfit m (some (path, mark)) =>
    (if path.isEmpty then "" else path ++ ": ") ++ m.message wording ++ mark.describe
  | tooManyAliases => "repetition limit exceeded"

/-- A result that is read from a part of a document, with how often aliases may still be
followed. -/
abbrev Reading (α : Type) := StateT Nat (Except Fault) α

/-- A fault with its place, unless that is known. -/
def Fault.locate (path : String) (mark : Mark) : Fault → Fault
  | misfit m none => misfit m (some (path, mark))
  | fault => fault

/-- Tell where a fault of a reading is. -/
def locate {α : Type} (path : String) (mark : Mark) (reading : Reading α) : Reading α :=
  fun limit => (reading limit).mapError (Fault.locate path mark)

/-- A misfit at a place that is not known yet. -/
def faultOf (m : Misfit) : Fault :=
  .misfit m none

/-- Refuse what does not fit. -/
def refuse {α : Type} (m : Misfit) : Reading α :=
  throw (faultOf m)

namespace Document

/-- The node that a node stands for. -/
def follow (d : Document) (node : Node Nat) : Reading (Node Nat) :=
  match node.content with
  | .alias number => fun
    | 0 => .error .tooManyAliases
    | limit + 1 => .ok ((d.node? number).getD node, limit)
  | _ => pure node

/-- Refuse what a node holds. -/
def refuseContent {α : Type} (tag : Option (List UInt8)) (expected : String) :
    Content Nat → Reading α
  | .broken => throw .malformed
  | .scalar value style => refuse (scalarMisfit tag value style expected)
  | .mapping .. => refuse (.wrongType .mapping expected)
  | .sequence .. | .alias _ => refuse (.wrongType .sequence expected)

/-- Read what the node holds that a node stands for. -/
def readContent {α : Type} (d : Document) (expected path : String) (node : Node Nat)
    (read : Content Nat → Option (Reading α)) : Reading α := do
  let node ← d.follow node
  locate path node.mark
    ((read node.content).getD (refuseContent node.tag expected node.content))

/-- Read the text of a scalar. -/
def readScalar (d : Document) (expected path : String) (node : Node Nat) :
    Reading String :=
  d.readContent expected path node fun
    | .scalar value _ => some (pure value)
    | _ => none

/-- Read a text. -/
def readText (d : Document) (expected path : String) (node : Node Nat) : Reading Json := do
  pure (.string (← d.readScalar expected path node))

/-- Read a number below `2 ^ 64`. -/
def readCount (d : Document) (path : String) (node : Node Nat) : Reading Json :=
  d.readContent Data.expectedCount path node fun
    | .scalar value .plain =>
      match foundPlain value with
      | .integer i =>
        some (if 0 ≤ i then pure (.number i.toNat)
          else refuse (.wrongValue (.integer i) Data.expectedCount))
      | _ => none
    | _ => none

/-! ## Names out of a list -/

/-- One of the given names. -/
def checkName (names : List String) (name : String) : Reading Json :=
  if names.contains name then pure (.string name) else refuse (.unknownVariant name names)

/-- The name that a tag of the document's own stands for. -/
def tagName? (tag : Option (List UInt8)) : Option String := do
  let tag ← tag
  if isOwnTag tag then
    let rest := tag.drop 1
    (Text.decode ⟨(if rest.isEmpty then tag else rest).toArray⟩).toOption
  else none

/-- Check that nothing comes with a name. -/
def checkNothing (path : String) (node : Node Nat) : Reading Unit :=
  locate path node.mark <|
    match node.content with
    | .scalar value style =>
      if style == .plain && (value.isEmpty || isNull value) then pure ()
      else refuse (.wrongValue (.text value) "null")
    | content => refuseContent none "unit" content

/-- Read a name that a node holds, as a tag or as a text. A tag that is no name is not told with
its place. -/
def readOwnChoice (names : List String) (path : String) (node : Node Nat) :
    Reading Json :=
  match tagName? node.tag with
  | some name => do
    let result ← checkName names name
    checkNothing path node
    pure result
  | none =>
    locate path node.mark <|
      match node.content with
      | .scalar value _ => checkName names value
      | content => refuseContent none "a YAML tag starting with '!'" content

/-- Read one of the given names. -/
def readChoice (d : Document) (names : List String) (path : String) (node : Node Nat) :
    Reading Json :=
  match node.content with
  | .alias _ => locate path node.mark do readOwnChoice names path (← d.follow node)
  | _ => readOwnChoice names path node

/-! ## Lists and records -/

/-- The path of an item of a list. -/
def itemPath (path : String) (index : Nat) : String :=
  s!"{path}[{index}]"

/-- The path of the value of a key. -/
def valuePath (path : String) (key : Node Nat) : String :=
  let name :=
    match key.content with
    | .scalar value _ => value
    | _ => "?"
  if path.isEmpty then name else path ++ "." ++ name

/-- Read a list. -/
def readList (d : Document) (item : String → Node Nat → Reading Json) (path : String)
    (node : Node Nat) : Reading Json :=
  d.readContent Data.expectedList path node fun
    | .sequence items closed => some do
      let results ← items.zipIdx.mapM fun (node, index) => item (itemPath path index) node
      if closed then pure (.array results) else throw .malformed
    | .scalar "" .plain => some (pure (.array []))
    | _ => none

/-- Pass over a value that no field takes. -/
def ignore (value : String × Node Nat) : Reading Unit :=
  if value.2.isWhole then pure () else throw .malformed

/-- Read a record. -/
def readRecord (d : Document) (title : String)
    (fields : List (FieldReader (String × Node Nat) Reading)) (path : String) (node : Node Nat) :
    Reading Json :=
  d.readContent (Data.expectedRecord title) path node fun
    | .mapping members closed => some do
      let keyed := members.map fun (key, value) => (key, (valuePath path key, value))
      let nameOf := d.readScalar "field identifier" path
      let given ← Data.readMembers fields nameOf ignore faultOf [] keyed
      if closed then pure (.object (← Data.arrange faultOf given fields)) else throw .malformed
    | .scalar "" .plain => some do
      pure (.object (← Data.arrange faultOf [] fields))
    | _ => none

/-- Read a value where there may be none. -/
def readNullable (d : Document) (read : String → Node Nat → Reading Json) (path : String)
    (node : Node Nat) : Reading Json := do
  let node ← d.follow node
  match node.content with
  | .scalar value .plain =>
    match node.tag with
    | none => if value.isEmpty || isNull value then pure .null else read path node
    | some tag =>
      if tag != coreTag "null" then read path node
      else if isNull value then pure .null
      else refuse (.wrongValue (.text value) "null")
  | _ => read path node

mutual

/-- Read data of a shape. -/
def readAs (d : Document) : Shape → String → Node Nat → Reading Json
  | .text, path, node => d.readText Data.expectedText path node
  | .path, path, node => d.readText Data.expectedPath path node
  | .count, path, node => d.readCount path node
  | .choice names, path, node => d.readChoice names path node
  | .list item, path, node => d.readList (d.readAs item) path node
  | .record title fields, path, node => d.readRecord title (d.readers fields) path node

/-- The readers of the fields of a record. -/
def readers (d : Document) : List (String × Presence × Shape) →
    List (FieldReader (String × Node Nat) Reading)
  | [] => []
  | (name, presence, shape) :: rest =>
    let read :=
      if presence == .nullable then d.readNullable (d.readAs shape) else d.readAs shape
    ⟨name, presence, fun (path, node) => read path node⟩ :: d.readers rest

end

end Document

/-- Read a text as data of a shape. -/
def read (shape : Shape) (text : String) : Except Fault Json := do
  let d := Document.ofString text
  let value ← (d.readAs shape "" d.root).run' d.aliasLimit
  if d.isAll then .ok value else .error .malformed

/-- Whether a text is exactly one document, whatever its data. -/
def isDocument (text : String) : Bool :=
  (Document.ofString text).isAll

end ShellPages.Yaml
