import ShellPages.Yaml.Property

/-!
# From texts to tokens

A text is cut into tokens from left to right. Two things make this more than a look at the next
characters. The indentation of lines opens and closes blocks, which is shown by tokens of their
own. And whether a node is a key is known only at the colon after it: the tokens since a place
where a key may begin are kept apart, so that the tokens for a key can be put before them.
-/

namespace ShellPages.Yaml

/-- A place where a key may begin. -/
structure KeyPlace where
  mark : Mark
  /-- What begins here can be nothing but a key. -/
  required : Bool

/-- The tokens within a pair of brackets, or outside of all. -/
structure FlowLevel where
  /-- The tokens before the place where a key may begin, last first. -/
  before : List Lexeme := []
  keyPlace : Option KeyPlace := none
  /-- The tokens after it, last first. -/
  after : List Lexeme := []

namespace FlowLevel

/-- All tokens, last first. -/
def lexemes (l : FlowLevel) : List Lexeme :=
  l.after ++ l.before

/-- Add a token. -/
def push (l : FlowLevel) (x : Lexeme) : FlowLevel :=
  { l with after := x :: l.after }

/-- Add the tokens of brackets that have been closed. -/
def append (l inner : FlowLevel) : FlowLevel :=
  { l with after := inner.lexemes ++ l.after }

end FlowLevel

/-- A text of which a part has been cut into tokens. -/
structure Scanner where
  /-- The innermost open brackets. -/
  level : FlowLevel := {}
  /-- The brackets around them, innermost first. -/
  outer : List FlowLevel := []
  /-- The column of the current block; less than zero outside of all. -/
  indent : Int := -1
  /-- The columns of the blocks around it, innermost first. -/
  indents : List Int := []
  /-- Whether a key may begin at the next token. -/
  keyAllowed : Bool := true
  rest : Input

namespace Scanner

/-- Whether brackets are open. -/
def inFlow (s : Scanner) : Bool :=
  !s.outer.isEmpty

/-- The place of the next character. -/
def mark (s : Scanner) : Mark :=
  s.rest.mark

/-- Add a token. -/
def push (s : Scanner) (token : Token) (start stop : Mark) : Scanner :=
  { s with level := s.level.push ⟨token, start, stop⟩ }

/-- Add a token of the next characters, as many as given. -/
def take (s : Scanner) (token : Token) (length : Nat) : Scanner :=
  let rest := s.rest.drop length
  { s.push token s.mark rest.mark with rest := rest }

/-! ## Keys -/

/-- Give up the place where a key may begin; none if a key is required there. -/
def dropKey? (s : Scanner) : Option Scanner :=
  match s.level.keyPlace with
  | some ⟨_, true⟩ => none
  | _ => some { s with level := { s.level with keyPlace := none } }

/-- Remember that a key may begin here, if it may. -/
def saveKey? (s : Scanner) : Option Scanner :=
  if s.keyAllowed then do
    let s ← s.dropKey?
    let place : KeyPlace := ⟨s.mark, !s.inFlow && s.indent == s.mark.column⟩
    some { s with level := { before := s.level.lexemes, keyPlace := some place, after := [] } }
  else some s

/-- How many bytes a key may have. -/
def maxKey : Nat := 1024

/-- Whether a key that begins at a place may not go on up to another: it is on one line and not
too long. -/
def KeyPlace.isStale (k : KeyPlace) (m : Mark) : Bool :=
  k.mark.line < m.line || k.mark.index + maxKey < m.index

/-- Give up the place where a key may begin, if that is too far away; none if a key is required
there. -/
def dropStaleKey? (m : Mark) (l : FlowLevel) : Option FlowLevel :=
  match l.keyPlace with
  | some k =>
    if KeyPlace.isStale k m then
      if k.required then none else some { l with keyPlace := none }
    else some l
  | none => some l

/-- Give up all places where keys may begin that are too far away. -/
def dropStaleKeys? (s : Scanner) : Option Scanner := do
  some { s with
    level := ← dropStaleKey? s.mark s.level
    outer := ← s.outer.mapM (dropStaleKey? s.mark) }

/-! ## Blocks -/

/-- Close the blocks that are deeper than a column, of which there are at most as many as given. -/
def closeBlocksUpTo (column : Int) : Nat → Scanner → Scanner
  | 0, s => s
  | bound + 1, s =>
    if s.indent > column then
      let s := s.push .blockEnd s.mark s.mark
      match s.indents with
      | [] => { s with indent := -1 }
      | indent :: indents => closeBlocksUpTo column bound { s with indent, indents }
    else s

/-- Close the blocks that are deeper than a column. Within brackets there are none. -/
def closeBlocks (s : Scanner) (column : Int) : Scanner :=
  if s.inFlow then s else closeBlocksUpTo column (s.indents.length + 1) s

/-- Whether a column opens a new block. -/
def opensBlock (s : Scanner) (column : Nat) : Bool :=
  !s.inFlow && s.indent < column

/-- Go into a block at a column. -/
def enterBlock (s : Scanner) (column : Nat) : Scanner :=
  { s with indent := column, indents := s.indent :: s.indents }

/-- Open a block at the next character, if its column opens one. -/
def openBlock (s : Scanner) (token : Token) : Scanner :=
  if s.opensBlock s.mark.column then (s.push token s.mark s.mark).enterBlock s.mark.column else s

/-! ## Between tokens -/

/-- Skip blanks, comments and line breaks. Tabs count as blanks where no key may begin, and within
brackets. A line that is not within brackets may begin with a key. The first argument bounds the
number of lines. -/
def skipSpace : Nat → Scanner → Scanner
  | 0, s => s
  | bound + 1, s =>
    let rest :=
      if s.mark.column == 0 && s.rest.startsWith byteOrderMark then s.rest.drop 1 else s.rest
    let tabs := s.inFlow || !s.keyAllowed
    let rest := (rest.dropWhile fun c => c == ' ' || (tabs && c == '\t')).dropComment
    if rest.isEmpty || !rest.isLineEnd then { s with rest }
    else skipSpace bound { s with rest := rest.drop 1, keyAllowed := !s.inFlow || s.keyAllowed }

/-! ## Tokens -/

/-- The end of the text. -/
def finish? (s : Scanner) : Option Scanner := do
  let s := { s with rest := ⟨[], s.mark.finish⟩ }
  let s ← (s.closeBlocks (-1)).dropKey?
  some (s.push .streamEnd s.mark s.mark)

/-- A directive. -/
def directive? (s : Scanner) : Option Scanner := do
  let start := s.mark
  let s ← (s.closeBlocks (-1)).dropKey?
  let (token, rest) ← Yaml.directive? (s.rest.drop 1)
  some { s.push token start rest.mark with rest, keyAllowed := false }

/-- The beginning or the end of a document. -/
def documentMark? (s : Scanner) (token : Token) : Option Scanner := do
  let s ← (s.closeBlocks (-1)).dropKey?
  some { s.take token 3 with keyAllowed := false }

/-- An opening bracket. -/
def openFlow? (s : Scanner) (token : Token) : Option Scanner := do
  let s := (← s.saveKey?).take token 1
  some { s with level := {}, outer := s.level :: s.outer, keyAllowed := true }

/-- A closing bracket. -/
def closeFlow? (s : Scanner) (token : Token) : Option Scanner := do
  let s ← s.dropKey?
  let s :=
    match s.outer with
    | [] => s
    | level :: outer => { s with level := level.append s.level, outer }
  some { s.take token 1 with keyAllowed := false }

/-- A comma within brackets. -/
def flowEntry? (s : Scanner) : Option Scanner := do
  let s ← s.dropKey?
  some { s.take .flowEntry 1 with keyAllowed := true }

/-- The mark of an entry of a list. -/
def blockEntry? (s : Scanner) : Option Scanner := do
  if !s.inFlow && !s.keyAllowed then none
  else
    let s ← (s.openBlock .blockSequenceStart).dropKey?
    some { s.take .blockEntry 1 with keyAllowed := true }

/-- The mark of a key. -/
def key? (s : Scanner) : Option Scanner := do
  if !s.inFlow && !s.keyAllowed then none
  else
    let s ← (s.openBlock .blockMappingStart).dropKey?
    some { s.take .key 1 with keyAllowed := !s.inFlow }

/-- Make a key of what begins at a place. -/
def confirmKey (s : Scanner) (place : Mark) : Scanner :=
  let opens := s.opensBlock place.column
  let before :=
    if opens then ⟨.blockMappingStart, place, place⟩ :: s.level.before else s.level.before
  let level : FlowLevel :=
    { s.level with before := ⟨.key, place, place⟩ :: before, keyPlace := none }
  let s := if opens then s.enterBlock place.column else s
  { s with level }

/-- The mark of a value. -/
def value? (s : Scanner) : Option Scanner :=
  match s.level.keyPlace with
  | some k => some { (s.confirmKey k.mark).take .value 1 with keyAllowed := false }
  | none =>
    if !s.inFlow && !s.keyAllowed then none
    else some { (s.openBlock .blockMappingStart).take .value 1 with keyAllowed := !s.inFlow }

/-- An alias or an anchor. -/
def name? (s : Scanner) (token : String → Token) : Option Scanner := do
  let s ← s.saveKey?
  let (name, rest) ← Yaml.name? (s.rest.drop 1)
  some { s.push (token name) s.mark rest.mark with rest, keyAllowed := false }

/-- A tag. -/
def tag? (s : Scanner) : Option Scanner := do
  let s ← s.saveKey?
  let (tag, rest) ← Yaml.tag? s.inFlow s.rest
  some { s.push (.tag tag) s.mark rest.mark with rest, keyAllowed := false }

/-- A scalar on lines of its own. -/
def block? (s : Scanner) (folded : Bool) : Option Scanner := do
  let s ← s.dropKey?
  let (value, rest) ← Yaml.block? folded s.indent (s.rest.drop 1)
  some { s.push (.scalar (String.ofList value) .block) s.mark rest.mark with
    rest, keyAllowed := true }

/-- A scalar between quotes. -/
def quoted? (s : Scanner) (q : Quote) : Option Scanner := do
  let s ← s.saveKey?
  let (value, rest) ← Yaml.quoted? q (s.rest.drop 1)
  some { s.push (.scalar (String.ofList value) .quoted) s.mark rest.mark with
    rest, keyAllowed := false }

/-- A plain scalar. -/
def plain? (s : Scanner) : Option Scanner := do
  let s ← s.saveKey?
  let scalar ← Yaml.plain? s.inFlow (s.indent + 1) s.rest
  some { s.push (.scalar (String.ofList scalar.value) .plain) s.mark scalar.rest.mark with
    rest := scalar.rest, keyAllowed := scalar.endsLine }

/-- The characters with which no plain scalar begins, unless it is a hyphen, a question mark or a
colon that stands for nothing else. -/
def isIndicator (c : Char) : Bool :=
  "-?:,[]\x7b\x7d#&*!|>'\"%@\x60".toList.contains c

/-- Whether a plain scalar begins here, after all other tokens have been ruled out. -/
def beginsPlain (s : Scanner) (c : Char) : Bool :=
  !(s.rest.isGapAt 0 || isIndicator c) || c == '-' ||
    (!s.inFlow && (c == '?' || c == ':') && !s.rest.isGapAt 1)

/-- The token that begins with the given character. -/
def tokenAt? (s : Scanner) (c : Char) : Option Scanner :=
  let standsAlone := s.inFlow || s.rest.isGapAt 1
  if s.mark.column == 0 && c == '%' then s.directive?
  else if s.rest.hasIndicator '-' then s.documentMark? .documentStart
  else if s.rest.hasIndicator '.' then s.documentMark? .documentEnd
  else if c == '[' then s.openFlow? .flowSequenceStart
  else if c == '\x7b' then s.openFlow? .flowMappingStart
  else if c == ']' then s.closeFlow? .flowSequenceEnd
  else if c == '\x7d' then s.closeFlow? .flowMappingEnd
  else if c == ',' then s.flowEntry?
  else if c == '-' && s.rest.isGapAt 1 then s.blockEntry?
  else if c == '?' && standsAlone then s.key?
  else if c == ':' && standsAlone then s.value?
  else if c == '*' then s.name? .alias
  else if c == '&' then s.name? .anchor
  else if c == '!' then s.tag?
  else if c == '|' && !s.inFlow then s.block? false
  else if c == '>' && !s.inFlow then s.block? true
  else if c == '\'' then s.quoted? .single
  else if c == '"' then s.quoted? .double
  else if s.beginsPlain c then s.plain?
  else none

/-- Go to the next character that belongs to a token. -/
def toNextToken? (s : Scanner) (bound : Nat) : Option Scanner := do
  let s ← (s.skipSpace bound).dropStaleKeys?
  some (s.closeBlocks s.mark.column)

/-- The tokens, last first, of the given ones and of levels from the outermost inwards. Those from
a place on where a key may begin are left out, since what comes later may put tokens before them. -/
def settledIn (tokens : List Lexeme) : List FlowLevel → List Lexeme
  | [] => tokens
  | level :: inner =>
    match level.keyPlace with
    | some _ => level.before ++ tokens
    | none => settledIn (level.lexemes ++ tokens) inner

/-- The tokens that do not depend on what comes later, in order. -/
def settled (s : Scanner) : List Lexeme :=
  (settledIn [] (s.level :: s.outer).reverse).reverse

/-- Cut the rest of a text into tokens, as far as that goes. The first argument is greater than the
number of characters that are left. -/
def run : Nat → Scanner → List Lexeme
  | 0, s => s.settled
  | bound + 1, s =>
    match s.toNextToken? (bound + 1) with
    | none => s.settled
    | some next =>
      match next.rest.head? with
      | none => (next.finish?.bind dropStaleKeys?).elim s.settled settled
      | some c =>
        match (next.tokenAt? c).bind dropStaleKeys? with
        | none => s.settled
        | some next => run bound next

end Scanner

/-- The tokens of a text, up to the place where it cannot be cut into tokens any more. The mark of
the end comes last if there is no such place. -/
def tokens (text : String) : List Lexeme :=
  match Input.ofString? text with
  | none => []
  | some input => Scanner.run (input.cells.length + 1) { rest := input }

end ShellPages.Yaml
