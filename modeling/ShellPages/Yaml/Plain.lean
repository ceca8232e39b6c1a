import ShellPages.Data.Shape
import ShellPages.Yaml.Node

/-!
# What scalars stand for

A plain scalar may stand for nothing, a boolean or a number instead of its text. A tag decides
what a scalar has to be; without one it is what it looks like.
-/

namespace ShellPages.Yaml

open Data (Found Misfit)

/-- Whether a text stands for nothing. -/
def isNull (s : String) : Bool :=
  s == "~" || s == "null" || s == "Null" || s == "NULL"

/-- The boolean of a text. -/
def boolean? (s : String) : Option Bool :=
  if s == "true" || s == "True" || s == "TRUE" then some true
  else if s == "false" || s == "False" || s == "FALSE" then some false
  else none

/-! ## Whole numbers -/

/-- The value of a digit. -/
def digit? (base : Nat) (c : Char) : Option Nat := do
  let value ←
    if c.isDigit then some (c.toNat - '0'.toNat)
    else if c.isAlpha then some (c.toLower.toNat - 'a'.toNat + 10)
    else none
  if value < base then some value else none

/-- The value of digits, of which there has to be one. -/
def digits? (base : Nat) (cs : List Char) : Option Nat :=
  if cs.isEmpty then none
  else cs.foldlM (fun n c => do some (n * base + (← digit? base c))) 0

/-- Whether a text is digits, after a sign, of which the first is a zero that means nothing. -/
def hasLeadingZero (cs : List Char) : Bool :=
  let digits :=
    match cs with
    | '-' :: rest => rest
    | '+' :: rest => rest
    | cs => cs
  digits.length > 1 && digits.head? == some '0' && digits.all Char.isDigit

/-- The size of a whole number without sign. -/
def magnitude? : List Char → Option Nat
  | '0' :: 'x' :: rest => digits? 16 rest
  | '0' :: 'o' :: rest => digits? 8 rest
  | '0' :: 'b' :: rest => digits? 2 rest
  | cs => if hasLeadingZero cs then none else digits? 10 cs

/-- The whole number of a text, which may have a sign. -/
def integer? : List Char → Option Int
  | '-' :: rest => (magnitude? rest).map fun n => -(n : Int)
  | '+' :: rest => (magnitude? rest).map Int.ofNat
  | cs => (magnitude? cs).map Int.ofNat

/-- A whole number in words. Beyond 64 bits its width is told, and beyond 128 bits it is none. -/
def foundInteger? (i : Int) : Option Found :=
  if -(Nat.pow 2 63 : Int) ≤ i && i < Nat.pow 2 64 then some (.integer i)
  else if 0 ≤ i && i < Nat.pow 2 128 then some (.wideInteger i "u128")
  else if -(Nat.pow 2 127 : Int) ≤ i && i < 0 then some (.wideInteger i "i128")
  else none

/-! ## Reals -/

/-- The parts of a decimal: the digits before and after the point, and the exponent. -/
structure DecimalText where
  whole : List Char
  fraction : List Char
  exponent : Int

/-- The exponent of a decimal, if there is one; nothing may come after it. -/
def exponent? : List Char → Option Int
  | [] => some 0
  | c :: rest =>
    if c == 'e' || c == 'E' then
      match rest with
      | '-' :: digits => (digits? 10 digits).map fun n => -(n : Int)
      | '+' :: digits => (digits? 10 digits).map Int.ofNat
      | digits => (digits? 10 digits).map Int.ofNat
    else none

/-- A decimal without sign: digits with or without a point among them, and perhaps an exponent. -/
def decimal? (cs : List Char) : Option DecimalText := do
  let whole := cs.takeWhile Char.isDigit
  let rest := cs.dropWhile Char.isDigit
  let (fraction, rest) :=
    match rest with
    | '.' :: rest => (rest.takeWhile Char.isDigit, rest.dropWhile Char.isDigit)
    | rest => ([], rest)
  if whole.isEmpty && fraction.isEmpty then none
  else some ⟨whole, fraction, ← exponent? rest⟩

/-- The double that is nearest to a decimal; none if that is infinite. -/
def DecimalText.value? (d : DecimalText) : Option Float :=
  let significand := (digits? 10 (d.whole ++ d.fraction)).getD 0
  let exponent := d.exponent - d.fraction.length
  let magnitude := exponent + (Nat.toDigits 10 significand).length
  if significand == 0 || magnitude < -400 then some 0
  else if magnitude > 400 then none
  else
    let x := Float.ofScientific significand (exponent < 0) exponent.natAbs
    if x.isInf then none else some x

/-- The names of infinity. -/
def isInfinity (s : String) : Bool :=
  s == ".inf" || s == ".Inf" || s == ".INF"

/-- The names of what is no number. -/
def isNoNumber (s : String) : Bool :=
  s == ".nan" || s == ".NaN" || s == ".NAN"

/-- The real of a text. -/
def real? (s : String) : Option Float :=
  match s.toList with
  | '+' :: rest =>
    if isInfinity (String.ofList rest) then some (1 / 0) else (decimal? rest).bind (·.value?)
  | '-' :: rest =>
    if isInfinity (String.ofList rest) then some (-1 / 0)
    else (decimal? rest).bind fun d => d.value?.map fun x => -x
  | cs =>
    if isInfinity s then some (1 / 0)
    else if isNoNumber s then some (0 / 0)
    else (decimal? cs).bind (·.value?)

/-! ## Scalars -/

/-- What a plain scalar without tag is. -/
def foundPlain (s : String) : Found :=
  if s.isEmpty || isNull s then .nothing
  else
    match boolean? s with
    | some b => .boolean b
    | none =>
      match (integer? s.toList).bind foundInteger? with
      | some found => found
      | none =>
        match if hasLeadingZero s.toList then none else real? s with
        | some x => .real x
        | none => .text s

/-- A tag of the format itself. -/
def coreTag (name : String) : List UInt8 :=
  s!"tag:yaml.org,2002:{name}".toUTF8.toList

/-- Whether a tag is one of the document's own. -/
def isOwnTag (tag : List UInt8) : Bool :=
  tag.head? == some '!'.toNat.toUInt8

/-- What is wrong with a scalar where something else was expected. With a tag of the format that
it does not fit, this is the tag and not what was expected. -/
def scalarMisfit (tag : Option (List UInt8)) (value : String) (style : ScalarStyle)
    (expected : String) : Misfit :=
  let wrongType (found : Option Found) (name : String) : Misfit :=
    match found with
    | some found => .wrongType found expected
    | none => .wrongValue (.text value) name
  let untagged := if style == .plain then foundPlain value else .text value
  match tag with
  | none => .wrongType untagged expected
  | some tag =>
    if tag == coreTag "bool" then wrongType ((boolean? value).map .boolean) "a boolean"
    else if tag == coreTag "int" then
      wrongType ((integer? value.toList).bind foundInteger?) "an integer"
    else if tag == coreTag "float" then wrongType ((real? value).map .real) "a float"
    else if tag == coreTag "null" then
      wrongType (if isNull value then some .nothing else none) "null"
    else if isOwnTag tag then .wrongType untagged expected
    else .wrongType (.text value) expected

end ShellPages.Yaml
