/-!
# Regular expressions

A regular expression in written order: what matters here is whether it can be used, not what it
matches. So sets of characters that are known by a name are told apart only by whether they are
negated, and of flags only the one for Unicode is kept. Whether an expression is too deep is
decided by `depth`.

An expression is matched against the characters of a text, so that it must not match a part of a
character. While characters are those of Unicode, that is so, but the ends of words cannot be found.
Otherwise characters are bytes: then nothing may match a byte that is no character by itself, as
negated sets do.
-/

namespace ShellPages

/-! ## Expressions -/

/-- What stands between the brackets of a class. -/
inductive ClassSet where
  | nothing
  /-- The characters from one to another. -/
  | range (first last : Char)
  /-- A set that has a name. -/
  | named (negated : Bool)
  /-- The characters of a general category with one letter. -/
  | category (letter : Char)
  /-- A class within the class. -/
  | nested (negated : Bool) (set : ClassSet)
  | union (items : List ClassSet)
  /-- An intersection or a difference. -/
  | combined (left right : ClassSet)
  deriving Repr

/-- A regular expression. -/
inductive Expression where
  | nothing
  /-- Flags for what comes after it in its group; perhaps whether characters are those of
  Unicode. -/
  | flags (unicode : Option Bool)
  /-- A character, which may stand for a byte. -/
  | char (c : Char) (isByte : Bool)
  /-- Any character. -/
  | any
  /-- An end of the text or of a line. -/
  | edge
  /-- An end of a word, or a place that is none. -/
  | wordEdge
  /-- A set that has a name. -/
  | named (negated : Bool)
  /-- The characters of a general category with one letter. -/
  | category (letter : Char)
  | oneOf (negated : Bool) (set : ClassSet)
  /-- A group, perhaps with a flag of its own. -/
  | group (unicode : Option Bool) (inner : Expression)
  | repeated (inner : Expression)
  | sequence (parts : List Expression)
  | choice (branches : List Expression)
  deriving Repr

namespace ClassSet

/-- Several items; one alone is no union. -/
def ofItems : List ClassSet → ClassSet
  | [] => nothing
  | [item] => item
  | items => union items

mutual

/-- How deep the classes, unions and combinations in a class are in each other. -/
def depth : ClassSet → Nat
  | nothing | range .. | named _ | category _ => 0
  | nested _ set => set.depth + 1
  | union items => greatestDepth items + 1
  | combined left right => max left.depth right.depth + 1

/-- The depth of the deepest item. -/
def greatestDepth : List ClassSet → Nat
  | [] => 0
  | item :: rest => max item.depth (greatestDepth rest)

end

end ClassSet

namespace Expression

/-- Several parts; one alone is no sequence. -/
def ofParts : List Expression → Expression
  | [] => nothing
  | [part] => part
  | parts => sequence parts

/-- Several branches; one alone is no choice. -/
def ofBranches : List Expression → Expression
  | [branch] => branch
  | branches => choice branches

mutual

/-- How deep the classes, groups, repetitions, sequences and choices are in each other. -/
def depth : Expression → Nat
  | nothing | flags _ | char .. | any | edge | wordEdge | named _ | category _ => 0
  | oneOf _ set => set.depth + 1
  | group _ inner | repeated inner => inner.depth + 1
  | sequence parts | choice parts => greatestDepth parts + 1

/-- The depth of the deepest part. -/
def greatestDepth : List Expression → Nat
  | [] => 0
  | part :: rest => max part.depth (greatestDepth rest)

end

end Expression

/-! ## Usable expressions -/

/-- Whether a general category has one letter, of either case. -/
def isCategory (letter : Char) : Bool :=
  "clmnpsz".toList.contains letter.toLower

/-- Whether a byte is a character. -/
def isSingleByte (c : Char) : Bool :=
  c.toNat < 0x80

namespace ClassSet

mutual

/-- Whether a class can be used. -/
def isUsable (unicode : Bool) : ClassSet → Bool
  | nothing => true
  | range _ last => unicode || isSingleByte last
  | named negated => unicode || !negated
  | category letter => unicode && isCategory letter
  | nested negated set => set.isUsable unicode && (unicode || !negated)
  | union items => areUsable unicode items
  | combined left right => left.isUsable unicode && right.isUsable unicode

/-- Whether all items can be used. -/
def areUsable (unicode : Bool) : List ClassSet → Bool
  | [] => true
  | item :: rest => item.isUsable unicode && areUsable unicode rest

end

end ClassSet

namespace Expression

mutual

/-- Check an expression; `unicode` tells whether characters are those of Unicode. The result tells
that of what comes after it in its group; there is none if the expression cannot be used. -/
def check? (unicode : Bool) : Expression → Option Bool
  | nothing | edge => some unicode
  | flags setting => some (setting.getD unicode)
  | char c isByte => if unicode || !isByte || isSingleByte c then some unicode else none
  | any => if unicode then some unicode else none
  | wordEdge => if unicode then none else some unicode
  | named negated => if unicode || !negated then some unicode else none
  | category letter => if unicode && isCategory letter then some unicode else none
  | oneOf negated set =>
    if set.isUsable unicode && (unicode || !negated) then some unicode else none
  | group setting inner => (inner.check? (setting.getD unicode)).map fun _ => unicode
  | repeated inner => inner.check? unicode
  | sequence parts | choice parts => checkAll? unicode parts

/-- Check expressions one after the other. -/
def checkAll? (unicode : Bool) : List Expression → Option Bool
  | [] => some unicode
  | part :: rest => do checkAll? (← part.check? unicode) rest

end

/-- The greatest depth of an expression that can be used. -/
def depthLimit : Nat := 250

/-- Whether an expression can be used. -/
def isUsable (e : Expression) : Bool :=
  e.depth ≤ depthLimit && (e.check? true).isSome

end Expression

end ShellPages
