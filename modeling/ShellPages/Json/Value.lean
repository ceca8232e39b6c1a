/-!
# Values and their written form

The values that reports are made of, and their two written forms: `compact` without any space,
and `pretty` with one item a line and two spaces for each level. Texts are written as they are
but for the quote, the backslash and the control characters.
-/

namespace ShellPages

/-- A value of a report. -/
inductive Json where
  | null
  | number (n : Nat)
  | string (s : String)
  | array (items : List Json)
  | object (members : List (String × Json))
  deriving Repr, Inhabited

namespace Json

/-- A hexadecimal digit, lower case. -/
def hexDigit (n : Nat) : Char :=
  Nat.digitChar n

/-- One character of a written text. -/
def escaped (c : Char) : List Char :=
  match c with
  | '"' => ['\\', '"']
  | '\\' => ['\\', '\\']
  | '\n' => ['\\', 'n']
  | '\r' => ['\\', 'r']
  | '\t' => ['\\', 't']
  | '\x08' => ['\\', 'b']
  | '\x0c' => ['\\', 'f']
  | c =>
    if c.toNat < 0x20 then
      ['\\', 'u', '0', '0', hexDigit (c.toNat / 16), hexDigit (c.toNat % 16)]
    else [c]

/-- A text between quotes. -/
def writeText (s : String) : List Char :=
  '"' :: s.toList.flatMap escaped ++ ['"']

mutual

/-- A value without any space. -/
def write : Json → List Char
  | null => "null".toList
  | number n => Nat.toDigits 10 n
  | string s => writeText s
  | array items => '[' :: writeItems items ++ [']']
  | object members => '\x7b' :: writeMembers members ++ ['\x7d']

/-- Items with commas between them. -/
def writeItems : List Json → List Char
  | [] => []
  | [item] => write item
  | item :: rest => write item ++ ',' :: writeItems rest

/-- Members with commas between them. -/
def writeMembers : List (String × Json) → List Char
  | [] => []
  | [(name, value)] => writeText name ++ ':' :: write value
  | (name, value) :: rest => writeText name ++ ':' :: write value ++ ',' :: writeMembers rest

end

/-- A new line with two spaces for each level. -/
def newLine (level : Nat) : List Char :=
  '\n' :: List.replicate (2 * level) ' '

mutual

/-- A value with one item a line, at the given level. -/
def writePretty (level : Nat) : Json → List Char
  | null => "null".toList
  | number n => Nat.toDigits 10 n
  | string s => writeText s
  | array [] => ['[', ']']
  | array items => '[' :: writePrettyItems (level + 1) items ++ newLine level ++ [']']
  | object [] => ['\x7b', '\x7d']
  | object members =>
    '\x7b' :: writePrettyMembers (level + 1) members ++ newLine level ++ ['\x7d']

/-- Items on a line each, with commas between them. -/
def writePrettyItems (level : Nat) : List Json → List Char
  | [] => []
  | [item] => newLine level ++ writePretty level item
  | item :: rest =>
    newLine level ++ writePretty level item ++ ',' :: writePrettyItems level rest

/-- Members on a line each, with commas between them. -/
def writePrettyMembers (level : Nat) : List (String × Json) → List Char
  | [] => []
  | [(name, value)] =>
    newLine level ++ writeText name ++ ':' :: ' ' :: writePretty level value
  | (name, value) :: rest =>
    newLine level ++ writeText name ++ ':' :: ' ' :: writePretty level value ++
      ',' :: writePrettyMembers level rest

end

/-- A value without any space. -/
def compact (j : Json) : String :=
  String.ofList j.write

/-- A value with one item a line and two spaces for each level. -/
def pretty (j : Json) : String :=
  String.ofList (j.writePretty 0)

end Json

end ShellPages
