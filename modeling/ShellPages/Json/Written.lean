import ShellPages.Data.Shape
import ShellPages.Decimal
import ShellPages.Json.Draft

/-!
# Data in JSON texts

`Json.read` reads a text as data of a shape. A record may be given as an object or as a list of
its fields; a name out of a list as a text or as the one key of an object without value. The text
is gone through in order, and the first thing that is wrong is the answer.

A type is `Written` if its values are written as data of a shape and can be read again. Reading a
text has two steps: the text is read as data of the shape, and the value is taken from the data.
-/

namespace ShellPages

/-! ## Reading data -/

namespace Json

open Data (Shape Presence FieldReader Misfit Found)

/-- Why a text cannot be read. -/
inductive Fault where
  /-- The text is no value, or not of a form that can be read. -/
  | malformed
  | misfit (m : Misfit)

/-- How values are spoken of. -/
def wording : Data.Wording where
  nothing := "null"
  real := Decimal.compact

/-- The text of a fault; a malformed text has none. -/
def Fault.message? : Fault → Option String
  | malformed => none
  | misfit m => some (m.message wording)

namespace Draft

/-- What a draft is, for a reader that expected something else. -/
def found : Draft → Except Fault Found
  | broken | unusable => .error .malformed
  | null => .ok .nothing
  | boolean b => .ok (.boolean b)
  | number (.natural n) => .ok (.integer n)
  | number (.negative i) => .ok (.integer i)
  | number (.real x) => .ok (.real x)
  | text s => .ok (.text s)
  | array .. => .ok .sequence
  | object .. => .ok .mapping

/-- Refuse a draft where something else was expected. -/
def refuse {α : Type} (expected : String) (d : Draft) : Except Fault α := do
  .error (.misfit (.wrongType (← d.found) expected))

/-- Read a text. -/
def readText (expected : String) : Draft → Except Fault Json
  | text s => .ok (.string s)
  | d => d.refuse expected

/-- Read a number below `2 ^ 64`. -/
def readCount (expected : String) : Draft → Except Fault Json
  | number (.natural n) => .ok (.number n)
  | number (.negative i) => .error (.misfit (.wrongValue (.integer i) expected))
  | d => d.refuse expected

/-- Read a name that has to be one of those given. -/
def readName (names : List String) (name : String) : Except Fault Json :=
  if names.contains name then .ok (.string name)
  else .error (.misfit (.unknownVariant name names))

/-- The text of a key. -/
def keyText : Draft → Except Fault String
  | text s => .ok s
  | _ => .error .malformed

/-- Read one of the given names, by itself or as the key of an object without value. -/
def readChoice (names : List String) : Draft → Except Fault Json
  | object ((key, value) :: rest) closed => do
    let result ← readName names (← keyText key)
    match value with
    | null => if rest.isEmpty && closed then .ok result else .error .malformed
    | value => value.refuse "unit"
  | text name => readName names name
  | _ => .error .malformed

/-- Pass over a value that no field takes. -/
def ignore (d : Draft) : Except Fault Unit :=
  if d.isWhole then .ok () else .error .malformed

/-- Read the items of a list as the fields of a record, of which the first has the given position
and the last may be missing if they need not be given. -/
def readElements (title : String) (size : Nat) (position : Nat) (closed : Bool) :
    List (FieldReader Draft (Except Fault)) → List Draft → Except Fault (List (String × Json))
  | [], rest => if rest.isEmpty && closed then .ok [] else .error .malformed
  | field :: fields, [] =>
    if !closed then .error .malformed
    else if field.presence == .required then
      .error (.misfit (.wrongLength position (Data.expectedElements title size)))
    else readElements title size (position + 1) closed fields []
  | field :: fields, item :: rest => do
    let value ← field.read item
    let others ← readElements title size (position + 1) closed fields rest
    .ok ((field.name, value) :: others)

/-- Read a record. -/
def readRecord (title : String) (fields : List (FieldReader Draft (Except Fault))) :
    Draft → Except Fault Json
  | object members closed => do
    let given ← Data.readMembers fields keyText ignore .misfit [] members
    if closed then .ok (.object (← Data.arrange .misfit given fields)) else .error .malformed
  | array items closed => do
    .ok (.object (← readElements title fields.length 0 closed fields items))
  | d => d.refuse (Data.expectedRecord title)

/-- Read a list. -/
def readList (item : Draft → Except Fault Json) : Draft → Except Fault Json
  | array items closed => do
    let results ← items.mapM item
    if closed then .ok (.array results) else .error .malformed
  | d => d.refuse Data.expectedList

/-- Read a value where there may be none. -/
def readNullable (read : Draft → Except Fault Json) : Draft → Except Fault Json
  | null => .ok .null
  | d => read d

mutual

/-- Read data of a shape. -/
def readAs : Shape → Draft → Except Fault Json
  | .text, d => d.readText Data.expectedText
  | .path, d => d.readText Data.expectedPath
  | .count, d => d.readCount Data.expectedCount
  | .choice names, d => d.readChoice names
  | .list item, d => d.readList (readAs item)
  | .record title fields, d => d.readRecord title (readers fields)

/-- The readers of the fields of a record. -/
def readers : List (String × Presence × Shape) → List (FieldReader Draft (Except Fault))
  | [] => []
  | (name, presence, shape) :: rest =>
    let read := if presence == .nullable then readNullable (readAs shape) else readAs shape
    ⟨name, presence, read⟩ :: readers rest

end

end Draft

/-- Read a text as data of a shape. Nothing but blanks may come after the value. -/
def read (shape : Shape) (text : String) : Except Fault Json := do
  let (draft, rest) := Draft.scan text
  let value ← draft.readAs shape
  if (skipBlanks rest).isEmpty then .ok value else .error .malformed

end Json

/-! ## Types with a written form -/

namespace Json

/-- The value of a member. -/
def member? (name : String) : Json → Option Json
  | object members => members.lookup name
  | _ => none

/-- A text. -/
def text? : Json → Option String
  | string s => some s
  | _ => none

/-- A number. -/
def count? : Json → Option Nat
  | number n => some n
  | _ => none

/-- The items of a list. -/
def items? : Json → Option (List Json)
  | array items => some items
  | _ => none

/-- The text of a member that may be missing or nothing. -/
def optionalText? (name : String) (j : Json) : Option (Option String) :=
  match j.member? name with
  | none | some null => some none
  | some value => value.text?.map some

/-- A text, or nothing. -/
def ofOptionalText : Option String → Json
  | some s => string s
  | none => null

end Json

/-- A type whose values are written as data of a shape. -/
class Written (α : Type) where
  /-- The shape of the data. -/
  shape : Data.Shape
  /-- The data of a value. -/
  toJson : α → Json
  /-- The value of data of the shape. -/
  ofJson? : Json → Option α

namespace Written

variable {α : Type} [Written α]

/-- Read a value from a text. -/
def read (α : Type) [Written α] (text : String) : Except Json.Fault α := do
  match ofJson? (← Json.read (shape α) text) with
  | some value => .ok value
  | none => .error .malformed

/-- Values out of the items of a list. -/
def listOfJson? (j : Json) : Option (List α) := do
  (← j.items?).mapM ofJson?

/-- The list of the data of values. -/
def listToJson (values : List α) : Json :=
  .array (values.map toJson)

/-- The value of a member that may be missing. -/
def memberOr? (name : String) (default : α) (j : Json) : Option α :=
  match j.member? name with
  | none => some default
  | some value => ofJson? value

/-- The values of a member that may be missing. -/
def listOrEmpty? (name : String) (j : Json) : Option (List α) :=
  match j.member? name with
  | none => some []
  | some value => listOfJson? value

instance : Written String where
  shape := .text
  toJson := .string
  ofJson? := Json.text?

instance : Written (List α) where
  shape := .list (shape α)
  toJson := listToJson
  ofJson? := listOfJson?

end Written

end ShellPages
