import ShellPages.Expression
import ShellPages.Text.Edit
import ShellPages.Text.Letter
import ShellPages.Text.Quoted

/-!
# Reading regular expressions

An expression is read by recursive descent: branches between bars, each of them a sequence of
parts, of which some are groups of branches again. Flags are valid to the end of their group, over
all of its further branches. Each reader gives its result and what comes after it.

In a verbose expression blanks and comments are skipped between characters, also within classes
and within the digits of an escape. The texts that are read here never hold a comma, an equals sign
or a closing brace, and one that does is not read as others would: there are no repetitions with
counts, so that an opening brace is an error, and an escape with braces is not read.
-/

namespace ShellPages.Expression

/-! ## Blanks -/

/-- What comes after blanks and comments, which go from a number sign to the end of the line. -/
def skipBlanks (inComment : Bool) : List Char → List Char
  | [] => []
  | c :: rest =>
    if inComment then skipBlanks (c != '\n') rest
    else if Text.isBlank c then skipBlanks false rest
    else if c == '#' then skipBlanks true rest
    else c :: rest

/-- What comes after blanks and comments, if they do not count. -/
def skip (verbose : Bool) (cs : List Char) : List Char :=
  if verbose then skipBlanks false cs else cs

/-- The next character. In a verbose expression blanks and one number sign among them are passed
over, if anything comes after them. -/
def peek (verbose : Bool) (cs : List Char) : Option Char :=
  if !verbose then cs.head?
  else
    let next :=
      match cs.dropWhile Text.isBlank with
      | '#' :: rest => rest.dropWhile Text.isBlank
      | cs => cs
    next.head? <|> cs.head?

/-! ## Escapes -/

/-- Whether a backslash makes a character stand for itself. -/
def isEscapable (c : Char) : Bool :=
  c.toNat < 0x80 && !c.isAlphanum && c != '<' && c != '>'

/-- How many digits the number of a character has. -/
def digitCount? : Char → Option Nat
  | 'x' => some 2
  | 'u' => some 4
  | 'U' => some 8
  | _ => none

/-- The control character of a letter. -/
def control? : Char → Option Char
  | 'a' => some '\x07'
  | 'f' => some '\x0c'
  | 'n' => some '\n'
  | 'r' => some '\r'
  | 't' => some '\t'
  | 'v' => some '\x0b'
  | _ => none

/-- The expression of a letter that stands for no character of its own. -/
def special? (c : Char) : Option Expression :=
  if "dsw".toList.contains c then some (.named false)
  else if "DSW".toList.contains c then some (.named true)
  else if c == 'A' || c == 'z' then some .edge
  else if "bB<>".toList.contains c then some .wordEdge
  else none

/-- Hexadecimal digits. -/
def takeDigits? (verbose : Bool) : Nat → List Char → Option (List Char × List Char)
  | 0, cs => some ([], skip verbose cs)
  | count + 1, cs =>
    match skip verbose cs with
    | [] => none
    | c :: rest => do
      if (Text.hexValue? c).isNone then none
      else
        let (digits, rest) ← takeDigits? verbose count rest
        some (c :: digits, rest)

/-- What stands after a backslash. -/
def takeEscape? (verbose : Bool) : List Char → Option (Expression × List Char)
  | [] => none
  | c :: rest =>
    if isEscapable c then some (.char c false, rest)
    else if c == 'p' || c == 'P' then
      match skip verbose rest with
      | [] => none
      | letter :: rest => some (.category letter, skip verbose rest)
    else
      match special? c, digitCount? c with
      | some e, _ => some (e, rest)
      | none, some count => do
        let (digits, rest) ← takeDigits? verbose count rest
        some (.char (← Text.charOfNumber? (← Text.hexNumber? digits)) (count == 2), rest)
      | none, none => (control? c).map fun c => (.char c false, rest)

/-! ## Classes -/

/-- The names of sets between brackets and colons. -/
def setNames : List String :=
  ["alnum", "alpha", "ascii", "blank", "cntrl", "digit", "graph", "lower", "print", "punct",
   "space", "upper", "word", "xdigit"]

/-- A name between colons, after an opening bracket; whether it is negated. -/
def takeSetName? : List Char → Option (Bool × List Char)
  | ':' :: rest =>
    let (negated, rest) :=
      match rest with
      | '^' :: rest => (true, rest)
      | rest => (false, rest)
    let name := rest.takeWhile fun c => c != ':'
    match rest.drop name.length with
    | ':' :: ']' :: rest =>
      if setNames.contains (String.ofList name) then some (negated, rest) else none
    | _ => none
  | _ => none

/-- What stands for one end of a range. -/
def takeItem? (verbose : Bool) : List Char → Option (Expression × List Char)
  | [] => none
  | '\\' :: rest => takeEscape? verbose rest
  | c :: rest => some (.char c false, rest)

/-- An item as a part of a class. -/
def ofItem? : Expression → Option ClassSet
  | .char c _ => some (.range c c)
  | .named negated => some (.named negated)
  | .category letter => some (.category letter)
  | _ => none

/-- An item of a class, with the end of its range if there is one. A hyphen before a closing bracket
or another hyphen begins no range. -/
def takeRange? (verbose : Bool) (cs : List Char) : Option (ClassSet × List Char) := do
  let (first, rest) ← takeItem? verbose cs
  let rest := skip verbose rest
  match rest with
  | '-' :: more =>
    if peek verbose more == some ']' || peek verbose more == some '-' then
      some (← ofItem? first, rest)
    else
      match first, ← takeItem? verbose (skip verbose more) with
      | .char first _, (.char last _, rest) =>
        if first ≤ last then some (.range first last, rest) else none
      | _, _ => none
  | rest => some (← ofItem? first, rest)

/-- Hyphens at the beginning of a class, which stand for themselves. The first argument bounds their
number. -/
def takeHyphens (verbose : Bool) : Nat → List Char → List ClassSet × List Char
  | bound + 1, '-' :: rest =>
    let (more, rest) := takeHyphens verbose bound (skip verbose rest)
    (.range '-' '-' :: more, rest)
  | _, cs => ([], cs)

/-- The beginning of a class after its opening bracket: whether it is negated, and what stands there
for itself, hyphens or a closing bracket. -/
def beginClass (verbose : Bool) (cs : List Char) : Bool × List ClassSet × List Char :=
  let (negated, cs) :=
    match skip verbose cs with
    | '^' :: rest => (true, skip verbose rest)
    | cs => (false, cs)
  match cs with
  | ']' :: rest => (negated, [.range ']' ']'], rest)
  | cs =>
    let (hyphens, cs) := takeHyphens verbose cs.length cs
    (negated, hyphens, cs)

/-- The items of a class since the last operator, last first, together with what is before that. -/
def closeItems (left : Option ClassSet) (items : List ClassSet) : ClassSet :=
  let right := ClassSet.ofItems items.reverse
  match left with
  | none => right
  | some left => .combined left right

/-- The rest of a class and its closing bracket; `items` are those read since the last operator,
last first, and `left` is what is before that. The first argument bounds the number of items. -/
def takeClassRest? (verbose : Bool) :
    Nat → Option ClassSet → List ClassSet → List Char → Option (ClassSet × List Char)
  | 0, _, _, _ => none
  | bound + 1, left, items, cs =>
    match skip verbose cs with
    | [] => none
    | ']' :: rest => some (closeItems left items, rest)
    | '[' :: rest =>
      match takeSetName? rest with
      | some (negated, rest) => takeClassRest? verbose bound left (.named negated :: items) rest
      | none => do
        let (negated, first, rest) := beginClass verbose rest
        let (set, rest) ← takeClassRest? verbose bound none first.reverse rest
        takeClassRest? verbose bound left (.nested negated set :: items) rest
    | '&' :: '&' :: rest | '-' :: '-' :: rest | '~' :: '~' :: rest =>
      takeClassRest? verbose bound (some (closeItems left items)) [] rest
    | cs => do
      let (item, rest) ← takeRange? verbose cs
      takeClassRest? verbose bound left (item :: items) rest

/-- A class after its opening bracket. -/
def takeClass? (verbose : Bool) (cs : List Char) : Option (Expression × List Char) := do
  let (negated, first, rest) := beginClass verbose cs
  let (set, rest) ← takeClassRest? verbose (cs.length + 1) none first.reverse rest
  some (.oneOf negated set, rest)

/-! ## Groups -/

/-- The flags that count for reading and for checking an expression. -/
structure Flags where
  verbose : Option Bool := none
  unicode : Option Bool := none
  deriving DecidableEq, Repr

/-- Whether characters are flags: each at most once, and one hyphen which is not the last. -/
def areFlags (flags : List Char) : Bool :=
  flags.all (fun c => "imsUuRx-".toList.contains c) && flags.eraseDups == flags &&
    flags.getLast? != some '-'

/-- What flags say about one of them: those before the hyphen are set, the others are cleared. -/
def flagState? (flags : List Char) (flag : Char) : Option Bool :=
  if flags.contains flag then some ((flags.takeWhile fun c => c != '-').contains flag) else none

/-- The name of a group, up to the closing angle bracket, and what comes after it. -/
def takeGroupName? (cs : List Char) : Option (List Char × List Char) :=
  let name := cs.takeWhile fun c => c != '>'
  let isPart (c : Char) : Bool := Text.isAlphanumeric c || "_.[]".toList.contains c
  match name, cs.drop name.length with
  | first :: more, _ :: rest =>
    if (first == '_' || Text.isAlphabetic first) && more.all isPart then some (name, rest) else none
  | _, _ => none

/-- What an opening parenthesis begins. -/
inductive Opening where
  | group (name : Option (List Char)) (flags : Flags)
  /-- Flags alone, with the closing parenthesis. -/
  | flags (flags : Flags)

/-- What begins after an opening parenthesis, and what comes after its mark. -/
def takeOpening? : List Char → Option (Opening × List Char)
  | '?' :: 'P' :: '<' :: rest | '?' :: '<' :: rest => do
    let (name, rest) ← takeGroupName? rest
    some (.group (some name) {}, rest)
  | '?' :: rest =>
    let marks := rest.takeWhile fun c => c != ':' && c != ')'
    let flags : Flags := ⟨flagState? marks 'x', flagState? marks 'u'⟩
    if !areFlags marks then none
    else
      match rest.drop marks.length with
      | ':' :: rest => some (.group none flags, rest)
      | ')' :: rest => if marks.isEmpty then none else some (.flags flags, rest)
      | _ => none
  | rest => some (.group none {}, rest)

/-! ## Expressions -/

/-- What has been read of a group, or of the whole expression. -/
structure Draft where
  /-- Whether blanks and comments are skipped. -/
  verbose : Bool := false
  /-- The names of all groups so far. -/
  names : List (List Char) := []
  /-- The finished branches, last first. -/
  branches : List Expression := []
  /-- The parts of the last branch, last first. -/
  parts : List Expression := []

namespace Draft

/-- Add a part. -/
def push (d : Draft) (part : Expression) : Draft :=
  { d with parts := part :: d.parts }

/-- Begin a new branch. -/
def nextBranch (d : Draft) : Draft :=
  { d with branches := ofParts d.parts.reverse :: d.branches, parts := [] }

/-- The expression that has been read. -/
def expression (d : Draft) : Expression :=
  ofBranches d.nextBranch.branches.reverse

/-- Repeat the last part; flags cannot be repeated. -/
def repeatLast? (d : Draft) : Option Draft :=
  match d.parts with
  | [] | .flags _ :: _ => none
  | part :: before => some { d with parts := .repeated part :: before }

/-- Go on reading, up to a closing parenthesis or the end of the text. The first argument bounds the
number of parts. -/
def readFrom? : Nat → Draft → List Char → Option (Draft × List Char)
  | 0, _, _ => none
  | bound + 1, d, cs =>
    match skip d.verbose cs with
    | [] => some (d, [])
    | c :: rest =>
      match c with
      | ')' => some (d, c :: rest)
      | '|' => readFrom? bound d.nextBranch rest
      | '*' | '+' | '?' => do
        readFrom? bound (← d.repeatLast?) (if rest.head? == some '?' then rest.drop 1 else rest)
      | '\x7b' => none
      | '[' => do
        let (part, rest) ← takeClass? d.verbose rest
        readFrom? bound (d.push part) rest
      | '\\' => do
        let (part, rest) ← takeEscape? d.verbose rest
        readFrom? bound (d.push part) rest
      | '(' => do
        match ← takeOpening? (skip d.verbose rest) with
        | (.flags set, rest) =>
          let verbose := set.verbose.getD d.verbose
          readFrom? bound { d.push (.flags set.unicode) with verbose } rest
        | (.group name set, rest) =>
          if name.any d.names.contains then none
          else
            let inner : Draft :=
              { verbose := set.verbose.getD d.verbose, names := name.toList ++ d.names }
            match ← readFrom? bound inner rest with
            | (inner, ')' :: rest) =>
              let d := d.push (.group set.unicode inner.expression)
              readFrom? bound { d with names := inner.names } rest
            | _ => none
      | '.' => readFrom? bound (d.push .any) rest
      | '^' | '$' => readFrom? bound (d.push .edge) rest
      | c => readFrom? bound (d.push (.char c false)) rest

end Draft

/-- Read an expression. -/
def parse? (text : List Char) : Option Expression :=
  match Draft.readFrom? (text.length + 1) {} text with
  | some (d, []) => some d.expression
  | _ => none

end ShellPages.Expression
