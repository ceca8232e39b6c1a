/-!
# Reading glob patterns

A pattern is a list of tokens. A character stands for itself, `?` for any character and `*` for
any run of characters; `[a-z]` is a class of characters, which `!` or `^` at its start negates,
and `{a,b}` offers alternatives. Two stars between slashes, or between a slash and an end of the
pattern, stand for any number of path segments.

A pattern is read from left to right, one character at a time, with a look at those that follow.
What a character means depends on where it stands: in the pattern itself, after a backslash, or
in a class. The tokens read so far belong to the innermost open group of alternatives.
-/

namespace ShellPages.Glob

/-! ## Patterns -/

/-- A part of a pattern. -/
inductive Token where
  /-- The character itself. -/
  | literal (c : Char)
  /-- Any character. -/
  | any
  /-- Any run of characters. -/
  | run
  /-- Two stars at the start of a pattern, with the slash after them: nothing, a slash, or
  anything up to a slash. -/
  | leading
  /-- Two stars at the end of a pattern, with the slash before them: a slash and anything. -/
  | trailing
  /-- Two stars and the slashes on both sides: a slash, or anything between two slashes. -/
  | between
  /-- A character in one of the ranges, or in none of them. -/
  | oneOf (negated : Bool) (ranges : List (Char × Char))
  /-- One of several patterns. -/
  | alternatives (branches : List (List Token))
  deriving Repr

/-- Why a text is not a pattern. -/
inductive Fault where
  | unclosedClass
  | invalidRange (first last : Char)
  | unopenedAlternatives
  | unclosedAlternatives
  | danglingEscape
  deriving DecidableEq, Repr

namespace Fault

/-- The text of a fault. -/
def cause : Fault → String
  | unclosedClass => "unclosed character class; missing ']'"
  | invalidRange first last => s!"invalid range; '{first}' > '{last}'"
  | unopenedAlternatives =>
    "unopened alternate group; missing '\x7b' (maybe escape '\x7d' with '[\x7d]'?)"
  | unclosedAlternatives =>
    "unclosed alternate group; missing '\x7d' (maybe escape '\x7b' with '[\x7b]'?)"
  | danglingEscape => "dangling '\\'"

/-- The text of a fault in the given pattern. -/
def message (pattern : String) (fault : Fault) : String :=
  s!"error parsing glob '{pattern}': {fault.cause}"

end Fault

/-! ## Reading -/

/-- An open group of alternatives: its finished branches, and the tokens before it, last first. -/
structure Group where
  branches : List (List Token)
  before : List Token

/-- A class that is being read. -/
structure OpenClass where
  negated : Bool := false
  /-- No character has been read yet. -/
  isFirst : Bool := true
  /-- The last character was a hyphen that may join two others. -/
  inRange : Bool := false
  /-- The ranges read so far, last first. -/
  ranges : List (Char × Char) := []

/-- What the next character means. -/
inductive Mode where
  /-- A part of the pattern. -/
  | pattern
  /-- Nothing: it and those after it, as many as the number says, belong to the last token. -/
  | skip (more : Nat)
  /-- Itself, after a backslash. -/
  | escaped
  /-- The first character of a class, or the mark that negates it. -/
  | classStart
  /-- A part of a class. -/
  | inClass (cls : OpenClass)

/-- A pattern of which a part has been read. -/
structure State where
  /-- The last character. -/
  last : Option Char := none
  /-- The tokens of the innermost group, last first. -/
  tokens : List Token := []
  /-- The open groups, innermost first. -/
  groups : List Group := []
  mode : Mode := .pattern

namespace State

/-- Add a token. -/
def push (s : State) (t : Token) : State :=
  { s with tokens := t :: s.tokens }

/-- Add two stars that have no meaning together. -/
def pushTwoRuns (s : State) : State :=
  (s.push .run).push .run

/-- Replace the slash before two stars by a token for both, unless stars stand there already. -/
def replaceSlash (s : State) (t : Token) : State :=
  match s.tokens with
  | .leading :: _ | .trailing :: _ => s
  | _ :: before => { s with tokens := t :: before }
  | [] => s.push t

/-- Read the first of two stars; `after` is what follows the second. -/
def twoStars (s : State) (after : List Char) : State :=
  let next := after.head?
  let s := { s with mode := .skip 0 }
  let atSlash := next == some '/'
  if s.tokens.isEmpty then
    if next.isNone then s.push .leading
    else if atSlash then { s.push .leading with mode := .skip 1 }
    else s.pushTwoRuns
  else if s.last != some '/' &&
      (s.groups.isEmpty || (s.last != some ',' && s.last != some '\x7b')) then
    s.pushTwoRuns
  else if next.isNone ||
      (!s.groups.isEmpty && (next == some ',' || next == some '\x7d')) then
    s.replaceSlash .trailing
  else if atSlash then { s.replaceSlash .between with mode := .skip 1 }
  else s.pushTwoRuns

/-- Read a character of the pattern itself; `rest` is what follows it. -/
def readPattern (s : State) (c : Char) (rest : List Char) : Except Fault State :=
  match c with
  | '?' => .ok (s.push .any)
  | '*' =>
    match rest with
    | '*' :: after => .ok (s.twoStars after)
    | _ => .ok (s.push .run)
  | '[' => .ok { s with mode := .classStart }
  | '\x7b' => .ok { s with tokens := [], groups := ⟨[], s.tokens⟩ :: s.groups }
  | '\x7d' =>
    match s.groups with
    | [] => .error .unopenedAlternatives
    | group :: groups =>
      let branches := group.branches ++ [s.tokens.reverse]
      .ok { s with tokens := .alternatives branches :: group.before, groups }
  | ',' =>
    match s.groups with
    | [] => .ok (s.push (.literal ','))
    | group :: groups =>
      .ok { s with
        tokens := [], groups := ⟨group.branches ++ [s.tokens.reverse], group.before⟩ :: groups }
  | '\\' => .ok { s with mode := .escaped }
  | c => .ok (s.push (.literal c))

/-- Let the last range of a class end with a character. -/
def closeRange (c : Char) : List (Char × Char) → Except Fault (List (Char × Char))
  | [] => .ok []
  | (first, _) :: ranges =>
    if c < first then .error (.invalidRange first c) else .ok ((first, c) :: ranges)

/-- Read a character of a class. -/
def readClass (s : State) (cls : OpenClass) (c : Char) : Except Fault State :=
  if c == ']' && !cls.isFirst then
    let ranges := if cls.inRange then ('-', '-') :: cls.ranges else cls.ranges
    .ok { s.push (.oneOf cls.negated ranges.reverse) with mode := .pattern }
  else if c == ']' || (c == '-' && cls.isFirst) then
    .ok { s with mode := .inClass { cls with isFirst := false, ranges := (c, c) :: cls.ranges } }
  else if cls.inRange then do
    let ranges ← closeRange c cls.ranges
    .ok { s with mode := .inClass { cls with isFirst := false, inRange := false, ranges } }
  else if c == '-' then
    .ok { s with mode := .inClass { cls with isFirst := false, inRange := true } }
  else
    .ok { s with mode := .inClass { cls with isFirst := false, ranges := (c, c) :: cls.ranges } }

/-- Read one character; `rest` is what follows it. -/
def read (s : State) (c : Char) (rest : List Char) : Except Fault State := do
  let s ← match s.mode with
    | .pattern => s.readPattern c rest
    | .skip 0 => .ok { s with mode := .pattern }
    | .skip (more + 1) => .ok { s with mode := .skip more }
    | .escaped => .ok { s.push (.literal c) with mode := .pattern }
    | .classStart =>
      if c == '!' || c == '^' then .ok { s with mode := .inClass { negated := true } }
      else s.readClass {} c
    | .inClass cls => s.readClass cls c
  .ok { s with last := some c }

/-- Read the end of the text. -/
def finish (s : State) : Except Fault (List Token) :=
  match s.mode, s.groups with
  | .escaped, _ => .error .danglingEscape
  | .classStart, _ | .inClass _, _ => .error .unclosedClass
  | _, [] => .ok s.tokens.reverse
  | _, _ :: _ => .error .unclosedAlternatives

end State

/-- Read the rest of a pattern. -/
def parseFrom (s : State) : List Char → Except Fault (List Token)
  | [] => s.finish
  | c :: rest => do parseFrom (← s.read c rest) rest

/-- Read a pattern. -/
def parse (pattern : String) : Except Fault (List Token) :=
  parseFrom {} pattern.toList

end ShellPages.Glob
