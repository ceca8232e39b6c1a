import ShellPages.Text.Quoted
import ShellPages.Yaml.Node

/-!
# Scalars

A scalar is a text in one of three forms: plain, between quotes, or on lines of its own after a
mark. In the first two forms lines are folded: blanks at their ends do not count, a single line
break is a space, and of several line breaks one is left out.

Each reader gives the value and what comes after it.
-/

namespace ShellPages.Yaml

/-! ## Folding -/

/-- Blanks between two words. -/
structure Gap where
  /-- The blanks of the first line. -/
  blanks : List Char := []
  /-- The line breaks. -/
  breaks : List Char := []
  deriving Repr

/-- Several line breaks as they stand in a folded text. The first one is left out, unless it is a
separator that is kept. -/
def foldBreaks : List Char → List Char
  | [] => []
  | first :: rest =>
    if first != '\n' then first :: rest else if rest.isEmpty then [' '] else rest

/-- A gap as it stands in a folded text. -/
def Gap.fold (g : Gap) : List Char :=
  if g.breaks.isEmpty then g.blanks else foldBreaks g.breaks

/-- Blanks and line breaks, and what comes after them. Blanks after a line break do not count. -/
def takeGap (t : Input) : Gap × Input :=
  let cells := t.cells.takeWhile fun c => isBlank c.char || isBreak c.char
  let chars := cells.map Cell.char
  (⟨chars.takeWhile isBlank, chars.filter isBreak⟩, t.drop cells.length)

/-! ## Plain scalars -/

/-- The characters that may not stand in a plain scalar within brackets. -/
def isFlowMark (c : Char) : Bool :=
  c == ',' || c == '[' || c == ']' || c == '\x7b' || c == '\x7d'

/-- Whether a plain scalar ends before the next character, which is neither blank nor a break. -/
def endsPlain (inFlow : Bool) (t : Input) : Bool :=
  match t.head? with
  | none => true
  | some c => (c == ':' && t.isGapAt 1) || (inFlow && isFlowMark c)

/-- Whether there is a colon within brackets that cannot be read. -/
def hasStrayColon (inFlow : Bool) (t : Input) : Bool :=
  inFlow && t.startsWith ':' &&
    match t.peek? 1 with
    | some c => isFlowMark c || c == '?'
    | none => false

/-- A word of a plain scalar, after some of its characters, last first; none if it cannot be
read. -/
def takeWord? (inFlow : Bool) (last : Mark) (word : List Char) :
    List Cell → Option (List Char × Input)
  | [] => some (word.reverse, ⟨[], last⟩)
  | c :: rest =>
    let t : Input := ⟨c :: rest, last⟩
    if isBlank c.char || isBreak c.char then some (word.reverse, t)
    else if hasStrayColon inFlow t then none
    else if endsPlain inFlow t then some (word.reverse, t)
    else takeWord? inFlow last (c.char :: word) rest

/-- Whether a tab stands where the indentation of a line should be. -/
def hasTabInIndentation (indent : Int) (afterBreak : Bool) : List Cell → Bool
  | [] => false
  | c :: rest =>
    if isBreak c.char then hasTabInIndentation indent true rest
    else if isBlank c.char then
      (afterBreak && c.mark.column < indent && c.char == '\t') ||
        hasTabInIndentation indent afterBreak rest
    else false

/-- What has been read of a plain scalar. -/
structure PlainScalar where
  value : List Char
  /-- What comes after it, with the blanks that do not belong to it left out. -/
  rest : Input
  /-- Whether lines have ended after its last word. -/
  endsLine : Bool

/-- Go on reading a plain scalar, at the beginning of a word and after the given gap, which counts
if there is a word. Lines of the scalar are indented at least as deep as given, if it is not within
brackets. The first argument bounds the number of words. -/
def plainFrom? (inFlow : Bool) (indent : Int) : Nat → Gap → Input → Option PlainScalar
  | 0, _, _ => none
  | bound + 1, gap, t => do
    let endsLine := !gap.breaks.isEmpty
    if t.isDocumentBoundary || t.startsWith '#' then some ⟨[], t, endsLine⟩
    else
      let (word, next) ← takeWord? inFlow t.last [] t.cells
      let started := !word.isEmpty
      let value := if started then gap.fold ++ word else []
      if next.isEmpty || !next.isGapAt 0 then some ⟨value, next, !started && endsLine⟩
      else if hasTabInIndentation indent false next.cells then none
      else
        let (gap, next) := takeGap next
        if !inFlow && next.mark.column < indent then some ⟨value, next, !gap.breaks.isEmpty⟩
        else
          let more ← plainFrom? inFlow indent bound gap next
          some { more with value := value ++ more.value }

/-- Read a plain scalar. -/
def plain? (inFlow : Bool) (indent : Int) (t : Input) : Option PlainScalar :=
  plainFrom? inFlow indent (t.cells.length + 1) {} t

/-! ## Scalars between quotes -/

/-- The character of an escape with one letter. -/
def escapedChar? : Char → Option Char
  | '0' => some '\x00'
  | 'a' => some '\x07'
  | 'b' => some '\x08'
  | 't' | '\t' => some '\t'
  | 'n' => some '\n'
  | 'v' => some '\x0b'
  | 'f' => some '\x0c'
  | 'r' => some '\r'
  | 'e' => some '\x1b'
  | ' ' => some ' '
  | '"' => some '"'
  | '/' => some '/'
  | '\\' => some '\\'
  | 'N' => some '\u0085'
  | '_' => some '\u00A0'
  | 'L' => some '\u2028'
  | 'P' => some '\u2029'
  | _ => none

/-- How many digits an escape has. -/
def escapeLength? : Char → Option Nat
  | 'x' => some 2
  | 'u' => some 4
  | 'U' => some 8
  | _ => none

/-- The character of the escape after a backslash, and what comes after it. -/
def takeEscape? (t : Input) : Option (Char × Input) := do
  let letter ← t.head?
  match escapeLength? letter with
  | none => some (← escapedChar? letter, t.drop 1)
  | some length =>
    let digits := ((t.drop 1).cells.take length).map Cell.char
    if digits.length < length then none
    else some (← Text.charOfNumber? (← Text.hexNumber? digits), t.drop (length + 1))

/-- The two forms of quotes. -/
inductive Quote where
  | single
  | double
  deriving DecidableEq, Repr

/-- The character of a quote. -/
def Quote.char : Quote → Char
  | single => '\''
  | double => '"'

/-- How a word between quotes ends. -/
inductive WordEnd where
  /-- Before a blank, a line break or the closing quote. -/
  | plain
  /-- With a line break that does not count. -/
  | escapedBreak

/-- A word between quotes, after some of its characters, last first. The first argument bounds the
number of characters. -/
def quotedWord? (q : Quote) : Nat → List Char → Input → Option (List Char × WordEnd × Input)
  | 0, _, _ => none
  | bound + 1, word, t =>
    if t.isGapAt 0 then some (word.reverse, .plain, t)
    else
      match q, t.peek? 0, t.peek? 1 with
      | .single, some '\'', some '\'' => quotedWord? q bound ('\'' :: word) (t.drop 2)
      | .double, some '\\', some next =>
        if isBreak next then some (word.reverse, .escapedBreak, t.drop 2)
        else do
          let (c, t) ← takeEscape? (t.drop 1)
          quotedWord? q bound (c :: word) t
      | .double, some '\\', none => none
      | _, some c, _ =>
        if c == q.char then some (word.reverse, .plain, t)
        else quotedWord? q bound (c :: word) (t.drop 1)
      | _, none, _ => none

/-- Go on reading a scalar between quotes, at the beginning of a word. The first argument bounds
the number of characters. -/
def quotedFrom? (q : Quote) : Nat → Input → Option (List Char × Input)
  | 0, _ => none
  | bound + 1, t =>
    if t.isDocumentBoundary || t.isEmpty then none
    else do
      let (word, wordEnd, t) ← quotedWord? q (bound + 1) [] t
      if t.startsWith q.char then some (word, t.drop 1)
      else
        let (gap, t) := takeGap t
        let folded :=
          match wordEnd with
          | .plain => gap.fold
          | .escapedBreak => gap.breaks
        let (more, t) ← quotedFrom? q bound t
        some (word ++ folded ++ more, t)

/-- Read a scalar after its opening quote. -/
def quoted? (q : Quote) (t : Input) : Option (List Char × Input) :=
  quotedFrom? q (t.cells.length + 1) t

/-! ## Scalars on lines of their own -/

/-- What becomes of the line breaks at the end. -/
inductive Chomping where
  /-- All but one are left out. -/
  | clip
  /-- All are left out. -/
  | strip
  /-- All are kept. -/
  | keep
  deriving DecidableEq, Repr

/-- The head of a scalar on lines of its own. -/
structure BlockHead where
  chomping : Chomping := .clip
  /-- How much deeper its lines are indented, if that is given. -/
  increment : Option Nat := none

/-- The meaning of a mark for line breaks. -/
def chomping? : Char → Option Chomping
  | '+' => some .keep
  | '-' => some .strip
  | _ => none

/-- A mark for line breaks, if there is one. -/
def takeChomping (t : Input) : Option Chomping × Input :=
  match t.head?.bind chomping? with
  | some c => (some c, t.drop 1)
  | none => (none, t)

/-- A digit for the indentation, if there is one; it may not be zero. -/
def takeIncrement? (t : Input) : Option (Option Nat × Input) :=
  match t.head? with
  | some '0' => none
  | some c =>
    if c.isDigit then some (some (c.toNat - '0'.toNat), t.drop 1) else some (none, t)
  | none => some (none, t)

/-- Read the head of a scalar after its first character, to the end of the line. -/
def blockHead? (t : Input) : Option (BlockHead × Input) := do
  let (first, t) := takeChomping t
  let (increment, t) ← takeIncrement? t
  let (second, t) :=
    match first, increment with
    | none, some _ => takeChomping t
    | _, _ => (none, t)
  let t ← t.finishLine?
  some (⟨(first <|> second).getD .clip, increment⟩, t)

/-- Line breaks between the lines of a scalar. -/
structure BlockBreaks where
  breaks : List Char
  /-- The deepest column that was reached. -/
  deepest : Nat
  rest : Input

/-- The spaces of an indentation, up to the given depth if there is one. -/
def dropIndentation (depth : Option Nat) (t : Input) : Input :=
  let isIndentation (c : Cell) : Bool :=
    c.char == ' ' &&
      match depth with
      | some depth => c.mark.column < depth
      | none => true
  { t with cells := t.cells.dropWhile isIndentation }

/-- Indentations and line breaks before a line of a scalar; none if a tab stands in an
indentation. The first argument bounds the number of lines. -/
def blockBreaks? (depth : Option Nat) : Nat → Nat → Input → Option BlockBreaks
  | 0, _, _ => none
  | bound + 1, deepest, t =>
    let t := dropIndentation depth t
    let column := t.mark.column
    let deepest := max deepest column
    let inIndentation := depth.all fun depth => column < depth
    match t.head? with
    | none => some ⟨[], deepest, t⟩
    | some c =>
      if c == '\t' && inIndentation then none
      else if isBreak c then do
        let more ← blockBreaks? depth bound deepest (t.drop 1)
        some { more with breaks := c :: more.breaks }
      else some ⟨[], deepest, t⟩

/-- What comes before a line of a scalar. -/
structure LineStart where
  /-- The break of the line before, if there is one. -/
  lineBreak : List Char := []
  /-- The breaks of empty lines. -/
  emptyBreaks : List Char := []
  /-- Whether the line before begins with a blank. -/
  afterBlank : Bool := false

/-- The breaks before a line. A folded scalar joins lines that do not begin with a blank. -/
def LineStart.join (s : LineStart) (folded atBlank : Bool) : List Char :=
  if folded && s.lineBreak == ['\n'] && !s.afterBlank && !atBlank then
    if s.emptyBreaks.isEmpty then [' '] else s.emptyBreaks
  else s.lineBreak ++ s.emptyBreaks

/-- The breaks at the end of a scalar. -/
def LineStart.chomp (s : LineStart) : Chomping → List Char
  | .strip => []
  | .clip => s.lineBreak
  | .keep => s.lineBreak ++ s.emptyBreaks

/-- Go on reading the lines of a scalar with the given depth. The first argument bounds the number
of lines. -/
def blockLines? (folded : Bool) (chomping : Chomping) (depth : Nat) :
    Nat → LineStart → Input → Option (List Char × Input)
  | 0, _, _ => none
  | bound + 1, start, t =>
    if t.isEmpty || t.mark.column != depth then some (start.chomp chomping, t)
    else do
      let atBlank := t.head?.any isBlank
      let content := t.takeWhile fun c => !isBreak c
      let t := t.drop content.length
      let lineBreak := t.head?.toList
      let breaks ← blockBreaks? (some depth) (bound + 1) 0 (t.drop 1)
      let (more, rest) ←
        blockLines? folded chomping depth bound ⟨lineBreak, breaks.breaks, atBlank⟩ breaks.rest
      some (start.join folded atBlank ++ content ++ more, rest)

/-- Read a scalar on lines of its own after its first character, within a block of the given
indentation. -/
def block? (folded : Bool) (indent : Int) (t : Input) : Option (List Char × Input) := do
  let (head, t) ← blockHead? t
  let depth := head.increment.map fun n => (max indent 0).toNat + n
  let start ← blockBreaks? depth (t.cells.length + 1) 0 t
  let depth := depth.getD (max (max start.deepest (indent + 1).toNat) 1)
  blockLines? folded head.chomping depth (start.rest.cells.length + 1) ⟨[], start.breaks, false⟩
    start.rest

end ShellPages.Yaml
