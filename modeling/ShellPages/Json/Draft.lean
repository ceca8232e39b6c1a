import ShellPages.Text.Quoted

/-!
# Drafts of JSON values

A text is read into a draft: the value that it starts with, up to the place where it goes wrong,
if it does. So a reader that knows what it expects can go through a draft in the order of the
text, and tell data that does not fit from a text that is no value at all, whichever comes first.
`Draft.scan` reads a draft at the beginning of a text.

A numeral has a whole part without leading zeros, and possibly a sign, a fraction and an exponent.
Whole numbers are kept as they are if they fit 64 bits. All others are doubles, found with as many
digits as fit 64 bits and one multiplication or division by a power of ten; a double that would be
infinite is out of range.
-/

namespace ShellPages.Json

/-! ## Numerals -/

/-- The number that a numeral stands for. -/
inductive Number where
  /-- A number below `2 ^ 64`. -/
  | natural (n : Nat)
  /-- A number from `-2 ^ 63` to `-1`. -/
  | negative (i : Int)
  | real (x : Float)
  deriving Repr

/-- The exponent of a numeral. -/
structure Exponent where
  isNegative : Bool
  digits : List Char
  deriving DecidableEq, Repr

/-- A numeral as it is written. -/
structure Numeral where
  isNegative : Bool
  whole : List Char
  fraction : Option (List Char)
  exponent : Option Exponent
  deriving DecidableEq, Repr

/-- What fits 64 bits. -/
def maxNatural : Nat := Nat.pow 2 64 - 1

/-- The value of a digit. -/
def digitValue (c : Char) : Nat :=
  c.toNat - '0'.toNat

namespace Numeral

/-- Digits, of which there has to be one. -/
def scanDigits? (cs : List Char) : Option (List Char × List Char) :=
  match cs.takeWhile Char.isDigit with
  | [] => none
  | digits => some (digits, cs.dropWhile Char.isDigit)

/-- The whole part: a zero, or digits of which the first is none. -/
def scanWhole? (cs : List Char) : Option (List Char × List Char) := do
  let (digits, rest) ← scanDigits? cs
  if digits.head? == some '0' && digits.length > 1 then none else some (digits, rest)

/-- The fraction, if there is a point. -/
def scanFraction? : List Char → Option (Option (List Char) × List Char)
  | '.' :: rest => do
    let (digits, rest) ← scanDigits? rest
    some (some digits, rest)
  | cs => some (none, cs)

/-- The exponent, if there is an `e`. -/
def scanExponent? : List Char → Option (Option Exponent × List Char)
  | [] => some (none, [])
  | c :: rest =>
    if c == 'e' || c == 'E' then do
      let (isNegative, rest) :=
        match rest with
        | '-' :: rest => (true, rest)
        | '+' :: rest => (false, rest)
        | _ => (false, rest)
      let (digits, rest) ← scanDigits? rest
      some (some ⟨isNegative, digits⟩, rest)
    else some (none, c :: rest)

/-- A numeral at the beginning of a text, and what comes after it. -/
def scan? (cs : List Char) : Option (Numeral × List Char) := do
  let (isNegative, cs) :=
    match cs with
    | '-' :: rest => (true, rest)
    | _ => (false, cs)
  let (whole, cs) ← scanWhole? cs
  let (fraction, cs) ← scanFraction? cs
  let (exponent, cs) ← scanExponent? cs
  some (⟨isNegative, whole, fraction, exponent⟩, cs)

/-- Put digits behind a number as long as the result fits 64 bits, and count those that do not
fit any more. -/
def absorb (n : Nat) : List Char → Nat × Nat
  | [] => (n, 0)
  | c :: rest =>
    let next := n * 10 + digitValue c
    if next ≤ maxNatural then absorb next rest else (n, rest.length + 1)

/-- A double times a power of ten; none if the result is infinite. Below the range of the powers
the double is divided in steps. -/
def scale? : Nat → Float → Int → Option Float
  | 0, _, _ => none
  | bound + 1, x, exponent =>
    if exponent.natAbs ≤ 308 then
      if 0 ≤ exponent then
        let y := x * Float.ofScientific 1 false exponent.natAbs
        if y.isInf then none else some y
      else some (x / Float.ofScientific 1 false exponent.natAbs)
    else if x == 0 then some x
    else if 0 ≤ exponent then none
    else scale? bound (x / Float.ofScientific 1 false 308) (exponent + 308)

/-- The value of an exponent, if it fits 31 bits. -/
def exponentValue? (e : Exponent) : Option Int :=
  let n := e.digits.foldl (fun n c => n * 10 + digitValue c) 0
  if n < Nat.pow 2 31 then some (if e.isNegative then -n else n) else none

/-- The size of a numeral that is no whole number. -/
def magnitude? (n : Numeral) : Option Float :=
  let (significand, dropped) := absorb 0 n.whole
  let (significand, places) :=
    match n.fraction with
    | none => (significand, 0)
    | some digits =>
      let (significand, rest) := absorb significand digits
      (significand, digits.length - rest)
  let x := significand.toUInt64.toFloat
  let shift : Int := (dropped : Int) - places
  match n.exponent with
  | none => scale? 8 x shift
  | some e =>
    match exponentValue? e with
    -- Dividing often enough leaves nothing, so that the bound is never reached.
    | some value => scale? 8 x (shift + value)
    | none => if significand != 0 && !e.isNegative then none else some 0

/-- The number that a numeral stands for; none if it is out of range. -/
def value? (n : Numeral) : Option Number :=
  let (whole, dropped) := absorb 0 n.whole
  let isWhole := n.fraction.isNone && n.exponent.isNone && dropped == 0
  if isWhole && !n.isNegative then some (.natural whole)
  else if isWhole && 0 < whole && whole ≤ Nat.pow 2 63 then some (.negative (-whole))
  else n.magnitude?.map fun x => .real (if n.isNegative then -x else x)

end Numeral

/-! ## Drafts -/

/-- What a text starts with. -/
inductive Draft where
  /-- No value. -/
  | broken
  /-- A value that is well formed but stands for nothing: a text with half of a pair of escapes,
  or a number that is out of range. -/
  | unusable
  | null
  | boolean (b : Bool)
  | number (n : Number)
  | text (s : String)
  /-- Items, of which only the last may be broken. The list may lack its end. -/
  | array (items : List Draft) (closed : Bool)
  /-- Keys and values, of which only the last may be broken. A key that is no text is followed by
  nothing. -/
  | object (members : List (Draft × Draft)) (closed : Bool)
  deriving Repr, Inhabited

namespace Draft

/-- Whether the value goes to its end. -/
def isWhole : Draft → Bool
  | broken => false
  | array _ closed => closed
  | object _ closed => closed
  | _ => true

end Draft

/-- The blanks between values. -/
def isBlank (c : Char) : Bool :=
  c == ' ' || c == '\n' || c == '\t' || c == '\r'

/-- A text without the blanks at its beginning. -/
def skipBlanks (cs : List Char) : List Char :=
  cs.dropWhile isBlank

/-! ## Texts -/

/-- A part of a text between quotes: a character, or the number of an escape. -/
inductive Piece where
  | char (c : Char)
  | unit (n : Nat)
  deriving DecidableEq, Repr

/-- The character of an escape with one letter. -/
def escapedChar? : Char → Option Char
  | '"' => some '"'
  | '\\' => some '\\'
  | '/' => some '/'
  | 'b' => some '\x08'
  | 'f' => some '\x0c'
  | 'n' => some '\n'
  | 'r' => some '\r'
  | 't' => some '\t'
  | _ => none

/-- The parts of a text up to the closing quote, and what comes after it. -/
def scanPieces? : List Char → Option (List Piece × List Char)
  | [] => none
  | '"' :: rest => some ([], rest)
  | '\\' :: 'u' :: a :: b :: c :: d :: rest => do
    let n ← Text.hexNumber? [a, b, c, d]
    let (pieces, rest) ← scanPieces? rest
    some (.unit n :: pieces, rest)
  | '\\' :: c :: rest => do
    let c ← escapedChar? c
    let (pieces, rest) ← scanPieces? rest
    some (.char c :: pieces, rest)
  | c :: rest =>
    if c.toNat < 0x20 || c == '\\' then none
    else do
      let (pieces, rest) ← scanPieces? rest
      some (.char c :: pieces, rest)

/-- The first half of a pair of escapes. -/
def isLeading (n : Nat) : Bool :=
  0xD800 ≤ n && n < 0xDC00

/-- The second half of a pair of escapes. -/
def isTrailing (n : Nat) : Bool :=
  0xDC00 ≤ n && n < 0xE000

/-- The characters of a text; none if half of a pair is missing. -/
def assemble? : List Piece → Option (List Char)
  | [] => some []
  | .char c :: rest => do some (c :: (← assemble? rest))
  | .unit n :: .unit m :: rest =>
    if isLeading n && isTrailing m then do
      some (Char.ofNat ((n - 0xD800) * 0x400 + (m - 0xDC00) + 0x10000) :: (← assemble? rest))
    else if isLeading n || isTrailing n then none
    else do some (Char.ofNat n :: (← assemble? (.unit m :: rest)))
  | .unit n :: rest =>
    if isLeading n || isTrailing n then none
    else do some (Char.ofNat n :: (← assemble? rest))

/-- A text after its opening quote. -/
def scanText (cs : List Char) : Draft × List Char :=
  match scanPieces? cs with
  | none => (.broken, [])
  | some (pieces, rest) =>
    match assemble? pieces with
    | some cs => (.text (String.ofList cs), rest)
    | none => (.unusable, rest)

/-- A number. -/
def scanNumber (cs : List Char) : Draft × List Char :=
  match Numeral.scan? cs with
  | none => (.broken, [])
  | some (numeral, rest) =>
    match numeral.value? with
    | some n => (.number n, rest)
    | none => (.unusable, rest)

/-! ## Values -/

mutual

/-- The draft of the value that a text starts with, and what comes after it. The first argument
bounds how deep and how long the value is. -/
def scanValue : Nat → List Char → Draft × List Char
  | 0, rest => (.broken, rest)
  | bound + 1, cs =>
    match skipBlanks cs with
    | 'n' :: 'u' :: 'l' :: 'l' :: rest => (.null, rest)
    | 't' :: 'r' :: 'u' :: 'e' :: rest => (.boolean true, rest)
    | 'f' :: 'a' :: 'l' :: 's' :: 'e' :: rest => (.boolean false, rest)
    | '"' :: rest => scanText rest
    | '[' :: rest =>
      match skipBlanks rest with
      | ']' :: rest => (.array [] true, rest)
      | rest =>
        let (items, closed, rest) := scanItems bound rest
        (.array items closed, rest)
    | '\x7b' :: rest =>
      match skipBlanks rest with
      | '\x7d' :: rest => (.object [] true, rest)
      | rest =>
        let (members, closed, rest) := scanMembers bound rest
        (.object members closed, rest)
    | cs => scanNumber cs

/-- The items of a list, of which there is at least one; whether the list has its end; and what
comes after it. -/
def scanItems : Nat → List Char → List Draft × Bool × List Char
  | 0, rest => ([], false, rest)
  | bound + 1, cs =>
    let (item, rest) := scanValue bound cs
    if item.isWhole then
      match skipBlanks rest with
      | ',' :: rest =>
        let (items, closed, rest) := scanItems bound rest
        (item :: items, closed, rest)
      | ']' :: rest => ([item], true, rest)
      | rest => ([item], false, rest)
    else ([item], false, rest)

/-- The members of an object, of which there is at least one; whether the object has its end; and
what comes after it. -/
def scanMembers : Nat → List Char → List (Draft × Draft) × Bool × List Char
  | 0, rest => ([], false, rest)
  | bound + 1, cs =>
    match skipBlanks cs with
    | '"' :: rest =>
      let (key, rest) := scanText rest
      match skipBlanks rest with
      | ':' :: rest =>
        let (value, rest) := scanValue bound rest
        if value.isWhole then
          match skipBlanks rest with
          | ',' :: rest =>
            let (members, closed, rest) := scanMembers bound rest
            ((key, value) :: members, closed, rest)
          | '\x7d' :: rest => ([(key, value)], true, rest)
          | rest => ([(key, value)], false, rest)
        else ([(key, value)], false, rest)
      | rest => ([(key, .broken)], false, rest)
    | cs => ([((scanValue bound cs).1, .broken)], false, [])

end

/-- The draft of the value that a text starts with, and what comes after it. -/
def Draft.scan (text : String) : Draft × List Char :=
  scanValue (2 * text.length + 2) text.toList

end ShellPages.Json
