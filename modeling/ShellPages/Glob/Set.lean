import ShellPages.Glob.Parse

/-!
# Matching glob patterns

A token takes some beginning of a text off and leaves the rest. Tokens are followed from a list of
texts to the list of all that they may leave of them, without repetitions, so that the work grows
with the length of the pattern and not with the number of ways to match it. A pattern matches a
text if its tokens, one after the other, can leave nothing.

Patterns are matched together, and it is enough if one of them matches. Groups of alternatives may
stand in one another, and there is no set of patterns in one of which they stand in one another too
deep. The depth counts what encloses a token: the pattern itself, each group, the choice between
several branches, the sequence of several parts, a repetition and a class. Branches that say nothing
do not count, and neither do groups of such branches.
-/

namespace ShellPages.Glob

/-! ## Depth -/

/-- Of how many parts something consists, and how deep it is. -/
structure Extent where
  parts : Nat
  depth : Nat
  deriving DecidableEq, Repr

namespace Extent

/-- The extent of what says nothing. -/
def nothing : Extent := ⟨0, 0⟩

/-- The extent of one thing after another. -/
def append (a b : Extent) : Extent :=
  ⟨a.parts + b.parts, max a.depth b.depth⟩

/-- How deep a branch is: several parts are enclosed by their sequence. -/
def branchDepth (b : Extent) : Nat :=
  if 1 < b.parts then b.depth + 1 else b.depth

/-- The extent of a group of branches. -/
def group (branches : List Extent) : Extent :=
  match branches.filter fun b => b.parts != 0 with
  | [] => nothing
  | [b] => ⟨1, b.branchDepth + 1⟩
  | several => ⟨1, (several.map branchDepth).foldl max 0 + 2⟩

end Extent

/-- Of how many parts a range of a class consists: single bytes and a range of bytes. -/
def rangePartCount (first last : Char) : Nat :=
  if first == last then first.utf8Size else first.utf8Size + (last.utf8Size - 1)

/-- Of how many parts a class consists. -/
def classPartCount : List (Char × Char) → Nat
  | [] => 0
  | (first, last) :: rest => rangePartCount first last + classPartCount rest

mutual

/-- The extent of a token. Characters are matched byte by byte. -/
def Token.extent : Token → Extent
  | .literal c => ⟨c.utf8Size, 0⟩
  | .any => ⟨1, 0⟩
  | .run => ⟨1, 1⟩
  | .trailing => ⟨2, 1⟩
  | .leading | .between => ⟨1, 4⟩
  | .oneOf _ ranges => ⟨1, if 1 < classPartCount ranges then 2 else 1⟩
  | .alternatives branches => .group (branchExtents branches)

/-- The extent of tokens one after the other. -/
def sequenceExtent : List Token → Extent
  | [] => .nothing
  | t :: rest => t.extent.append (sequenceExtent rest)

/-- The extents of branches. -/
def branchExtents : List (List Token) → List Extent
  | [] => []
  | branch :: others => sequenceExtent branch :: branchExtents others

end

/-- Whether tokens stand for nothing at all: groups none of whose branches says anything. -/
def isVacuous (tokens : List Token) : Bool :=
  (sequenceExtent tokens).parts == 0

/-- The greatest depth of a pattern that can be matched. -/
def depthLimit : Nat := 250

/-- Whether a pattern can be matched. -/
def isShallow (tokens : List Token) : Bool :=
  (sequenceExtent tokens).depth + 1 ≤ depthLimit

/-! ## Matching -/

/-- A text and all that is left of it when characters are taken off its start. -/
def tails : List Char → List (List Char)
  | [] => [[]]
  | c :: rest => (c :: rest) :: tails rest

/-- What follows each slash of a text. -/
def afterSlashes : List Char → List (List Char)
  | [] => []
  | c :: rest => if c == '/' then rest :: afterSlashes rest else afterSlashes rest

/-- Whether a class holds a character. -/
def inClass (negated : Bool) (ranges : List (Char × Char)) (c : Char) : Bool :=
  (ranges.any fun (first, last) => first ≤ c && c ≤ last) != negated

/-- What a token other than alternatives may leave of a text. -/
def Token.rests : Token → List Char → List (List Char)
  | .literal c, d :: rest => if c == d then [rest] else []
  | .any, _ :: rest => [rest]
  | .run, text => tails text
  | .leading, text => text :: afterSlashes text
  | .trailing, '/' :: rest => tails rest
  | .between, '/' :: rest => rest :: afterSlashes rest
  | .oneOf negated ranges, c :: rest => if inClass negated ranges c then [rest] else []
  | _, _ => []

mutual

/-- What a token may leave of several texts. Branches that say nothing are not offered, unless
all of them say nothing. -/
def Token.restsOf : Token → List (List Char) → List (List Char)
  | .alternatives branches, texts =>
    if branches.all isVacuous then texts else (branchRests branches texts).eraseDups
  | t, texts => (texts.flatMap t.rests).eraseDups

/-- What tokens, one after the other, may leave of several texts. -/
def sequenceRests : List Token → List (List Char) → List (List Char)
  | [], texts => texts
  | t :: rest, texts => sequenceRests rest (t.restsOf texts)

/-- What one of several branches may leave of several texts. -/
def branchRests : List (List Token) → List (List Char) → List (List Char)
  | [], _ => []
  | branch :: others, texts =>
    (if isVacuous branch then [] else sequenceRests branch texts) ++ branchRests others texts

end

/-- Whether a pattern matches a text. Two stars alone match everything. -/
def isMatch (tokens : List Token) (text : List Char) : Bool :=
  match tokens with
  | [.leading] => true
  | tokens => (sequenceRests tokens [text]).contains []

/-! ## Sets of patterns -/

/-- Patterns that are matched together. -/
structure PatternSet where
  patterns : List (List Token)
  areShallow : ∀ tokens ∈ patterns, isShallow tokens

namespace PatternSet

/-- The set of the given patterns, if all of them can be matched. -/
def ofList? (patterns : List (List Token)) : Option PatternSet :=
  if h : ∀ tokens ∈ patterns, isShallow tokens then some ⟨patterns, h⟩ else none

/-- Patterns have a set exactly if none of them is too deep. -/
theorem isSome_ofList?_iff {patterns : List (List Token)} :
    (ofList? patterns).isSome ↔ ∀ tokens ∈ patterns, isShallow tokens := by
  rw [ofList?, Option.isSome_dite]

/-- The set of patterns consists of them. -/
theorem patterns_of_ofList?_eq_some {patterns : List (List Token)} {set : PatternSet}
    (h : ofList? patterns = some set) : set.patterns = patterns := by
  obtain ⟨_, hset⟩ := Option.dite_none_right_eq_some.1 h
  cases hset
  rfl

/-- Whether a pattern of a set matches a text. -/
def isMatch (s : PatternSet) (text : List Char) : Bool :=
  s.patterns.any fun tokens => Glob.isMatch tokens text

end PatternSet

end ShellPages.Glob
