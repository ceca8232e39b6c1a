/-!
# Doubles in decimal digits

A finite double is `m * 2 ^ q`. All reals nearer to it than to its neighbours are read back as it,
and so are those half-way if `m` is even. `shortest` finds the decimal with the fewest digits
among these, and of those the nearest to the double: for each number of digits, one of the two
neighbours of the double on that decimal grid is in the interval if any point of the grid is. Which
one is taken when both are equally near is up to the caller.

There are two ways to write the shortest decimal. In both a whole number keeps a zero after its
point. `positional` never uses an exponent and takes the greater of two equally near decimals;
`compact` uses an exponent with its sign outside of `1e-5` to `1e16` and takes the even one.
-/

namespace ShellPages.Decimal

/-! ## The shortest decimal -/

/-- The number `digits * 10 ^ exponent`. -/
structure Scientific where
  digits : Nat
  exponent : Int
  deriving DecidableEq, Repr

/-- Which of two equally near neighbours is taken. -/
inductive Tie where
  /-- The greater one. -/
  | up
  /-- The one with an even last digit. -/
  | even
  deriving DecidableEq, Repr

/-- The positive fraction `num / den`. -/
structure Ratio where
  num : Nat
  den : Nat

/-- `n * 2 ^ q` as a fraction. -/
def Ratio.ofBinary (n : Nat) (q : Int) : Ratio :=
  match q with
  | .ofNat q => ⟨n * Nat.pow 2 q, 1⟩
  | .negSucc q => ⟨n, Nat.pow 2 (q + 1)⟩

/-- `n * 10 ^ e` as a fraction. -/
def Ratio.ofDecimal (n : Nat) (e : Int) : Ratio :=
  match e with
  | .ofNat e => ⟨n * Nat.pow 10 e, 1⟩
  | .negSucc e => ⟨n, Nat.pow 10 (e + 1)⟩

/-- Whether one fraction is at most another. -/
def Ratio.le (a b : Ratio) : Bool :=
  a.num * b.den ≤ b.num * a.den

/-- The largest number whose multiple of a fraction is at most another fraction. -/
def Ratio.quotient (a unit : Ratio) : Nat :=
  (a.num * unit.den) / (a.den * unit.num)

/-- A double apart from its sign, and the bounds of the reals that are read back as it. -/
structure Interval where
  low : Ratio
  value : Ratio
  high : Ratio
  /-- Whether the bounds themselves are read back as the double. -/
  closed : Bool

/-- The interval of `m * 2 ^ q`. Below a power of two the neighbour is nearer, unless it is the
least normal number. -/
def Interval.of (m : Nat) (q : Int) (powerOfTwo : Bool) : Interval where
  low := .ofBinary (if powerOfTwo then 4 * m - 1 else 4 * m - 2) (q - 2)
  value := .ofBinary (4 * m) (q - 2)
  high := .ofBinary (4 * m + 2) (q - 2)
  closed := m % 2 == 0

/-- Whether a fraction is read back as the double. -/
def Interval.contains (i : Interval) (r : Ratio) : Bool :=
  if i.closed then i.low.le r && r.le i.high else !r.le i.low && !i.high.le r

/-- The exponent of the first decimal digit of a fraction. -/
def magnitude (r : Ratio) : Int :=
  let guess := (Nat.toDigits 10 r.num).length - ((Nat.toDigits 10 r.den).length : Int)
  if (Ratio.ofDecimal 1 guess).le r then guess else guess - 1

/-- Whether the lower of two neighbours is taken, `doubled` being twice the value between them. -/
def takesLower (tie : Tie) (lower : Nat) (doubled sum : Ratio) : Bool :=
  if doubled.le sum then !sum.le doubled || (tie == .even && lower % 2 == 0) else false

/-- The nearer of the two neighbours on the grid of the given exponent that is in the interval. -/
def nearestOnGrid (tie : Tie) (i : Interval) (exponent : Int) : Option Nat :=
  let below := i.value.quotient (.ofDecimal 1 exponent)
  let fits n := i.contains (.ofDecimal n exponent)
  let sum := Ratio.ofDecimal (2 * below + 1) exponent
  match fits below, fits (below + 1) with
  | true, true =>
    some (if takesLower tie below ⟨2 * i.value.num, i.value.den⟩ sum then below else below + 1)
  | true, false => some below
  | false, true => some (below + 1)
  | false, false => none

/-- The first grid, from coarse to fine, with a point in the interval. The number bounds how many
grids are tried. -/
def shortestFrom (tie : Tie) (i : Interval) : Nat → Int → Scientific
  | 0, exponent => ⟨i.value.quotient (.ofDecimal 1 exponent), exponent⟩
  | bound + 1, exponent =>
    match nearestOnGrid tie i exponent with
    | some digits => ⟨digits, exponent⟩
    | none => shortestFrom tie i bound (exponent - 1)

/-- The double `m * 2 ^ q` of the given bits, without its sign. -/
def parts (bits : UInt64) : Nat × Int :=
  let fraction : Nat := bits.toNat % Nat.pow 2 52
  let exponent : Nat := bits.toNat / Nat.pow 2 52 % Nat.pow 2 11
  if exponent == 0 then (fraction, -1074) else (fraction + Nat.pow 2 52, (exponent : Int) - 1075)

/-- Whether the sign bit is set. -/
def isNegative (bits : UInt64) : Bool :=
  bits.toNat / Nat.pow 2 63 == 1

/-- The shortest decimal of the finite double with the given bits, without its sign. -/
def shortest (tie : Tie) (bits : UInt64) : Scientific :=
  let (m, q) := parts bits
  if m == 0 then ⟨0, 0⟩
  else
    let i := Interval.of m q (m == Nat.pow 2 52 && q > -1074)
    shortestFrom tie i 18 (magnitude i.value + 1)

/-! ## Layout -/

/-- The decimal digits of a number. -/
def digitsOf (n : Nat) : List Char :=
  Nat.toDigits 10 n

/-- As many zeros as given. -/
def zeros (n : Nat) : List Char :=
  List.replicate n '0'

/-- Digits with a point, without an exponent. -/
def positionalText (s : Scientific) : List Char :=
  let digits := digitsOf s.digits
  match s.exponent with
  | .ofNat e => digits ++ zeros e ++ ['.', '0']
  | .negSucc e =>
    let places := e + 1
    if digits.length > places then
      digits.take (digits.length - places) ++ '.' :: digits.drop (digits.length - places)
    else ['0', '.'] ++ zeros (places - digits.length) ++ digits

/-- Digits with an exponent: one before the point, and no point if there is only one. -/
def exponentText (s : Scientific) : List Char :=
  let digits := digitsOf s.digits
  let exponent := s.exponent + digits.length - 1
  let mantissa :=
    match digits with
    | [d] => [d]
    | [] => []
    | d :: rest => d :: '.' :: rest
  let sign := if exponent < 0 then '-' else '+'
  mantissa ++ 'e' :: sign :: digitsOf exponent.natAbs

/-- The sign of a double, if it is negative. -/
def signText (bits : UInt64) : List Char :=
  if isNegative bits then ['-'] else []

/-- A double written with its sign; infinities and what is no number have names. -/
def write (tie : Tie) (layout : Scientific → List Char) (x : Float) : String :=
  if x.isNaN then "NaN"
  else if x.isInf then (if x > 0 then "inf" else "-inf")
  else String.ofList (signText x.toBits ++ layout (shortest tie x.toBits))

/-- A double without an exponent. -/
def positional (x : Float) : String :=
  write .up positionalText x

/-- A double with an exponent if it is very large or very small. -/
def compact (x : Float) : String :=
  write .even (fun s =>
    let magnitude := s.exponent + (digitsOf s.digits).length
    if s.digits == 0 || (-5 < magnitude && magnitude ≤ 16) then positionalText s
    else exponentText s) x

end ShellPages.Decimal
