import ShellPages.Json.Value
import ShellPages.Text.Quoted

/-!
# Shapes of data

Settings and reports are read from documents of named and listed values. A shape describes what is
expected: texts, counts, names out of a list, lists and records. Every format reads data of a shape
in the same way, up to the form of its faults: the first thing that does not fit, in the order of
the document, is the answer. What fits is turned into a value in which the fields of a record stand
in the order of the shape, without those that were not given.

A value may be of the wrong type, a name may be unknown, a field may be missing or given twice. The
causes are the same for every format; a format chooses two words of their text only.
-/

namespace ShellPages.Data

/-! ## Data that does not fit -/

/-- A value that was found where another was expected. -/
inductive Found where
  /-- The value that stands for nothing. -/
  | nothing
  | boolean (b : Bool)
  | integer (i : Int)
  /-- An integer of more than 64 bits, with the width in which it was read. -/
  | wideInteger (i : Int) (width : String)
  | real (x : Float)
  | text (s : String)
  | sequence
  | mapping
  deriving Repr

/-- Why data does not fit. -/
inductive Misfit where
  | wrongType (found : Found) (expected : String)
  | wrongValue (found : Found) (expected : String)
  | wrongLength (length : Nat) (expected : String)
  | unknownVariant (name : String) (known : List String)
  | missingField (name : String)
  | duplicateField (name : String)
  deriving Repr

/-- How a format speaks of values. -/
structure Wording where
  /-- The word for the value that stands for nothing. -/
  nothing : String
  /-- How reals are written. -/
  real : Float → String

/-- A text between grave accents. -/
def marked (text : String) : String :=
  "\x60" ++ text ++ "\x60"

namespace Found

/-- What was found, in words. -/
def describe (w : Wording) : Found → String
  | nothing => w.nothing
  | boolean b => "boolean " ++ marked (if b then "true" else "false")
  | integer i => "integer " ++ marked (toString i)
  | wideInteger i width => "integer " ++ marked (toString i) ++ " as " ++ width
  | real x => "floating point " ++ marked (w.real x)
  | text s => "string " ++ Text.quoted s
  | sequence => "sequence"
  | mapping => "map"

end Found

namespace Misfit

/-- The names that would have been known. -/
def oneOf (known : List String) : String :=
  match known.map marked with
  | [one] => one
  | [one, other] => one ++ " or " ++ other
  | many => "one of " ++ ", ".intercalate many

/-- The text of a misfit. -/
def message (w : Wording) : Misfit → String
  | wrongType found expected => s!"invalid type: {found.describe w}, expected {expected}"
  | wrongValue found expected => s!"invalid value: {found.describe w}, expected {expected}"
  | wrongLength length expected => s!"invalid length {length}, expected {expected}"
  | unknownVariant name known => s!"unknown variant {marked name}, expected {oneOf known}"
  | missingField name => s!"missing field {marked name}"
  | duplicateField name => s!"duplicate field {marked name}"

end Misfit

/-! ## Shapes -/

/-- Whether a field has to be given. -/
inductive Presence where
  /-- It has to be given. -/
  | required
  /-- It may be missing. -/
  | defaulted
  /-- It may be missing, and its value may be the one that stands for nothing. -/
  | nullable
  deriving DecidableEq, Repr

/-- What data looks like. -/
inductive Shape where
  | text
  /-- The path of a file. -/
  | path
  /-- A number below `2 ^ 64`. -/
  | count
  /-- One of the given names. -/
  | choice (names : List String)
  | list (item : Shape)
  | record (title : String) (fields : List (String × Presence × Shape))
  deriving Repr

/-- What is expected where a text is. -/
def expectedText : String := "a string"

/-- What is expected where the path of a file is. -/
def expectedPath : String := "path string"

/-- What is expected where a number is. -/
def expectedCount : String := "usize"

/-- What is expected where a list is. -/
def expectedList : String := "a sequence"

/-- What is expected where a record is. -/
def expectedRecord (title : String) : String :=
  s!"struct {title}"

/-- What is expected of a list that stands for a record. -/
def expectedElements (title : String) (size : Nat) : String :=
  s!"{expectedRecord title} with {size} element" ++ if size == 1 then "" else "s"

/-- A field of a record with the way to read its value. -/
structure FieldReader (δ : Type) (μ : Type → Type) where
  name : String
  presence : Presence
  read : δ → μ Json

section

variable {κ δ ε : Type} {μ : Type → Type} [Monad μ] [MonadExcept ε μ]

/-- Read the members of a record in their order. A field may be given once, and a member that is
no field is left to `ignore`. -/
def readMembers (fields : List (FieldReader δ μ)) (nameOf : κ → μ String) (ignore : δ → μ Unit)
    (misfit : Misfit → ε) (given : List (String × Json)) :
    List (κ × δ) → μ (List (String × Json))
  | [] => pure given
  | (key, value) :: rest => do
    let name ← nameOf key
    match fields.find? fun field => field.name == name with
    | none =>
      ignore value
      readMembers fields nameOf ignore misfit given rest
    | some field =>
      if given.any fun member => member.1 == name then throw (misfit (.duplicateField name))
      else
        let result ← field.read value
        readMembers fields nameOf ignore misfit (given ++ [(name, result)]) rest

/-- What was given, in the order of the fields. Fields that have to be given must be there. -/
def arrange (misfit : Misfit → ε) (given : List (String × Json)) :
    List (FieldReader δ μ) → μ (List (String × Json))
  | [] => pure []
  | field :: rest =>
    match given.lookup field.name, field.presence with
    | some value, _ => do
      let others ← arrange misfit given rest
      pure ((field.name, value) :: others)
    | none, .required => throw (misfit (.missingField field.name))
    | none, _ => arrange misfit given rest

end

end ShellPages.Data
