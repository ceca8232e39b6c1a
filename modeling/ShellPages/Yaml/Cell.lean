/-!
# Texts with positions

A text is read as cells: its characters with the places where they stand. A line break is one
cell, however it is written, and holds a line feed unless it is one of the two separators that are
kept. What comes after the last character has a place too.
-/

namespace ShellPages.Yaml

/-- A place in a text: how many bytes, lines, and characters of the line come before it. -/
structure Mark where
  index : Nat := 0
  line : Nat := 0
  column : Nat := 0
  deriving DecidableEq, Repr, Inhabited

/-- A character at its place. -/
structure Cell where
  char : Char
  mark : Mark
  deriving DecidableEq, Repr

/-- Whether a character ends a line. -/
def isBreak (c : Char) : Bool :=
  c == '\n' || c == '\r' || c == '\u0085' || c == '\u2028' || c == '\u2029'

/-- Whether a character separates words. -/
def isBlank (c : Char) : Bool :=
  c == ' ' || c == '\t'

/-- Whether a text may hold a character. -/
def isAllowed (c : Char) : Bool :=
  c == '\t' || c == '\n' || c == '\r' || (' ' ≤ c && c ≤ '~') || c == '\u0085' ||
    ('\u00A0' ≤ c && c != '\uFFFE' && c != '\uFFFF')

/-- The mark that may stand at the beginning of a line without meaning. -/
def byteOrderMark : Char := '\uFEFF'

namespace Mark

/-- The place after a character that does not end a line. -/
def next (m : Mark) (c : Char) : Mark :=
  ⟨m.index + c.utf8Size, m.line, m.column + 1⟩

/-- The place after a line break of the given number of bytes. -/
def nextLine (m : Mark) (length : Nat) : Mark :=
  ⟨m.index + length, m.line + 1, 0⟩

/-- The place at which a text ends: the beginning of a line. -/
def finish (m : Mark) : Mark :=
  if m.column == 0 then m else ⟨m.index, m.line + 1, 0⟩

end Mark

/-- The character that stands for a line break. -/
def breakChar (c : Char) : Char :=
  if c == '\u2028' || c == '\u2029' then c else '\n'

/-- The cells of a text from a place on, and the place after them. -/
def cellsFrom (m : Mark) : List Char → List Cell × Mark
  | [] => ([], m)
  | '\r' :: '\n' :: rest =>
    let (cells, last) := cellsFrom (m.nextLine 2) rest
    (⟨'\n', m⟩ :: cells, last)
  | c :: rest =>
    if isBreak c then
      let (cells, last) := cellsFrom (m.nextLine c.utf8Size) rest
      (⟨breakChar c, m⟩ :: cells, last)
    else
      let (cells, last) := cellsFrom (m.next c) rest
      (⟨c, m⟩ :: cells, last)

/-- A text from some place to its end. -/
structure Input where
  cells : List Cell
  /-- The place after the last character. -/
  last : Mark

namespace Input

/-- The cells of a text; none if it holds a character that it may not. -/
def ofString? (s : String) : Option Input :=
  if s.toList.all isAllowed then
    let (cells, last) := cellsFrom {} s.toList
    some ⟨cells, last⟩
  else none

/-- The place of the next character. -/
def mark (t : Input) : Mark :=
  match t.cells with
  | [] => t.last
  | c :: _ => c.mark

/-- The next character. -/
def head? (t : Input) : Option Char :=
  t.cells.head?.map Cell.char

/-- The character after the given number of others. -/
def peek? (t : Input) (n : Nat) : Option Char :=
  (t.cells[n]?).map Cell.char

/-- Whether the next character is the given one. -/
def startsWith (t : Input) (c : Char) : Bool :=
  t.head? == some c

/-- A text without its next characters. -/
def drop (t : Input) (n : Nat) : Input :=
  { t with cells := t.cells.drop n }

/-- The next characters with a property. -/
def takeWhile (t : Input) (p : Char → Bool) : List Char :=
  (t.cells.takeWhile fun c => p c.char).map Cell.char

/-- A text without the next characters with a property. -/
def dropWhile (t : Input) (p : Char → Bool) : Input :=
  { t with cells := t.cells.dropWhile fun c => p c.char }

/-- Whether there is nothing left. -/
def isEmpty (t : Input) : Bool :=
  t.cells.isEmpty

/-- Whether a blank, the end of a line or the end of the text comes after some characters. -/
def isGapAt (t : Input) (n : Nat) : Bool :=
  match t.peek? n with
  | none => true
  | some c => isBlank c || isBreak c

/-- Whether the end of a line or of the text comes next. -/
def isLineEnd (t : Input) : Bool :=
  match t.head? with
  | none => true
  | some c => isBreak c

/-- A text without the blanks that come next. -/
def dropBlanks (t : Input) : Input :=
  t.dropWhile isBlank

/-- A text without a comment that comes next. -/
def dropComment (t : Input) : Input :=
  if t.startsWith '#' then t.dropWhile fun c => !isBreak c else t

/-- Go on to the next line, where at most blanks and a comment are left of this one. -/
def finishLine? (t : Input) : Option Input :=
  let t := t.dropBlanks.dropComment
  if t.isLineEnd then some (t.drop 1) else none

/-- Whether the given mark of a document comes next, at the beginning of a line. -/
def hasIndicator (t : Input) (c : Char) : Bool :=
  t.mark.column == 0 && t.peek? 0 == some c && t.peek? 1 == some c && t.peek? 2 == some c &&
    t.isGapAt 3

/-- Whether a document begins or ends here. -/
def isDocumentBoundary (t : Input) : Bool :=
  t.hasIndicator '-' || t.hasIndicator '.'

end Input

end ShellPages.Yaml
