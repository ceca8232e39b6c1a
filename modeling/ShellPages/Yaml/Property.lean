import ShellPages.Yaml.Scalar

/-!
# Names, tags and directives

What is said of a node or of a document: the name of an anchor or an alias, a tag, the version of
the format, and what a handle in tags stands for. A tag is bytes, since it may hold escapes for
any of them; what comes after a zero byte does not count.

Each reader gives its result and what comes after it.
-/

namespace ShellPages.Yaml

/-- The characters of names and handles. -/
def isWordChar (c : Char) : Bool :=
  c.isAlphanum || c == '_' || c == '-'

/-- A name. -/
def takeName (t : Input) : List Char × Input :=
  (t.takeWhile isWordChar, t.dropWhile isWordChar)

/-- Whether the name of an anchor or an alias may end here. -/
def endsName (t : Input) : Bool :=
  t.isGapAt 0 ||
    match t.head? with
    | some c => c == '?' || c == ':' || isFlowMark c && c != '[' && c != '\x7b' || c == '%' ||
        c == '@' || c == '\x60'
    | none => true

/-- The name after the mark of an anchor or an alias. -/
def name? (t : Input) : Option (String × Input) :=
  let (name, t) := takeName t
  if name.isEmpty || !endsName t then none else some (String.ofList name, t)

/-! ## Tags -/

/-- The handle at the beginning of a tag: an exclamation mark, and perhaps a word and another
one. -/
def handle? (t : Input) : Option (List Char × Input) :=
  if t.startsWith '!' then
    let (word, t) := takeName (t.drop 1)
    if t.startsWith '!' then some ('!' :: word ++ ['!'], t.drop 1) else some ('!' :: word, t)
  else none

/-- The characters of a tag. Those of lists may stand in a verbatim tag only. -/
def isTagChar (verbatim : Bool) (c : Char) : Bool :=
  isWordChar c || ";/?:@&=+$.!~*'()%".toList.contains c || (verbatim && ",[]".toList.contains c)

/-- The byte of an escape, and what comes after it. -/
def tagEscape? (t : Input) : Option (Nat × Input) := do
  if !t.startsWith '%' then none
  else some (← Text.hexNumber? [← t.peek? 1, ← t.peek? 2], t.drop 3)

/-- How many bytes a character has that begins with the given one. -/
def byteCount? (b : Nat) : Option Nat :=
  if b < 0x80 then some 1
  else if b < 0xC0 then none
  else if b < 0xE0 then some 2
  else if b < 0xF0 then some 3
  else if b < 0xF8 then some 4
  else none

/-- The escapes of the following bytes of a character. -/
def tagEscapes? : Nat → Input → Option (List UInt8 × Input)
  | 0, t => some ([], t)
  | n + 1, t => do
    let (b, t) ← tagEscape? t
    if b < 0x80 || 0xC0 ≤ b then none
    else
      let (more, t) ← tagEscapes? n t
      some (b.toUInt8 :: more, t)

/-- The bytes of a tag. The first argument bounds the number of characters. -/
def tagBytes? (verbatim : Bool) : Nat → Input → Option (List UInt8 × Input)
  | 0, _ => none
  | bound + 1, t =>
    match t.head? with
    | none => some ([], t)
    | some '%' => do
      let (b, t) ← tagEscape? t
      let (following, t) ← tagEscapes? ((← byteCount? b) - 1) t
      let (more, t) ← tagBytes? verbatim bound t
      some (b.toUInt8 :: following ++ more, t)
    | some c =>
      if isTagChar verbatim c then do
        let (more, t) ← tagBytes? verbatim bound (t.drop 1)
        some (c.toNat.toUInt8 :: more, t)
      else some ([], t)

/-- The bytes that count: a zero byte ends a tag. -/
def beforeZero (bytes : List UInt8) : List UInt8 :=
  bytes.takeWhile fun b => b != 0

/-- The rest of a tag, of which there must be something. -/
def tagRest? (verbatim : Bool) (t : Input) : Option (List UInt8 × Input) := do
  let (bytes, t) ← tagBytes? verbatim (t.cells.length + 1) t
  if bytes.isEmpty then none else some (beforeZero bytes, t)

/-- The bytes of characters of a tag. -/
def wordBytes (word : List Char) : List UInt8 :=
  word.map fun c => c.toNat.toUInt8

/-- A tag between angle brackets. -/
def verbatimTag? (t : Input) : Option (TagText × Input) := do
  let (rest, t) ← tagRest? true t
  if t.startsWith '>' then some (⟨"", rest⟩, t.drop 1) else none

/-- A tag with a handle. What looks like a handle but does not end with an exclamation mark
belongs to the rest of a tag whose handle is the exclamation mark; alone, that is no handle but
the tag. -/
def shortTag? (t : Input) : Option (TagText × Input) := do
  let (handle, t) ← handle? t
  if handle.length > 1 && handle.getLast? == some '!' then
    let (rest, t) ← tagRest? false t
    some (⟨String.ofList handle, rest⟩, t)
  else
    let (rest, t) ← tagBytes? false (t.cells.length + 1) t
    let rest := beforeZero (wordBytes (handle.drop 1) ++ rest)
    if rest.isEmpty then some (⟨"", wordBytes ['!']⟩, t) else some (⟨"!", rest⟩, t)

/-- A tag, which starts with an exclamation mark. A blank, the end of the line or, within
brackets, a comma comes after it. -/
def tag? (inFlow : Bool) (t : Input) : Option (TagText × Input) := do
  let (tag, t) ← if t.peek? 1 == some '<' then verbatimTag? (t.drop 2) else shortTag? t
  if t.isGapAt 0 || (inFlow && t.startsWith ',') then some (tag, t) else none

/-! ## Directives -/

/-- A number of at most nine digits. -/
def versionNumber? (t : Input) : Option (Nat × Input) :=
  let digits := t.takeWhile Char.isDigit
  if digits.isEmpty || digits.length > 9 then none
  else some (digits.foldl (fun n c => n * 10 + (c.toNat - '0'.toNat)) 0, t.drop digits.length)

/-- The version of the format. -/
def versionDirective? (t : Input) : Option (Token × Input) := do
  let (major, t) ← versionNumber? t.dropBlanks
  if !t.startsWith '.' then none
  else
    let (minor, t) ← versionNumber? (t.drop 1)
    some (.versionDirective major minor, t)

/-- What a handle stands for. -/
def tagDirective? (t : Input) : Option (Token × Input) := do
  let (handle, t) ← handle? t.dropBlanks
  if handle.length > 1 && handle.getLast? != some '!' then none
  else if !t.head?.any isBlank then none
  else
    let (beginning, t) ← tagRest? true t.dropBlanks
    if t.isGapAt 0 then some (.tagDirective (String.ofList handle) beginning, t) else none

/-- A directive after its mark, to the end of the line. -/
def directive? (t : Input) : Option (Token × Input) := do
  let (name, t) := takeName t
  if name.isEmpty || !t.isGapAt 0 then none
  else
    let (token, t) ←
      if name == "YAML".toList then versionDirective? t
      else if name == "TAG".toList then tagDirective? t
      else none
    some (token, ← t.finishLine?)

end ShellPages.Yaml
