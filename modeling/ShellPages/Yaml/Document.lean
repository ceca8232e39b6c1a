import ShellPages.Yaml.Parsing
import ShellPages.Yaml.Scanning

/-!
# Documents

A text is read as its first document, up to the place where it goes wrong, if it does. In a
document every anchor has a number: how many names of anchors were known when it was set. An alias
has the number that its name has at that place, and it stands for the last node with this number,
so that a name that is set again shares its number with the next new name.
-/

namespace ShellPages.Yaml

/-- The numbers of the names of anchors. -/
abbrev Anchors := List (String × Nat)

/-- Give a name its number, which is how many names are known. -/
def Anchors.set (a : Anchors) (name : String) : Anchors :=
  (name, a.length) :: a.filter fun known => known.1 != name

/-- Something with numbered anchors, whether it is whole, and the names that are known after it. -/
structure Numbered (α : Type) where
  value : α
  isWhole : Bool
  anchors : Anchors

mutual

/-- Number the anchors of a node. An alias with an unknown name cannot be read, nor can what comes
after it. -/
def numberNode (a : Anchors) : Node String → Numbered (Node Nat)
  | .mk mark tag anchor content =>
    let number := anchor.map fun _ => a.length
    let result := numberContent ((anchor.map a.set).getD a) content
    ⟨.mk mark tag number result.value, result.isWhole, result.anchors⟩

/-- Number the anchors of what a node holds. -/
def numberContent (a : Anchors) : Content String → Numbered (Content Nat)
  | .broken => ⟨.broken, false, a⟩
  | .alias name =>
    match a.lookup name with
    | some number => ⟨.alias number, true, a⟩
    | none => ⟨.broken, false, a⟩
  | .scalar value style => ⟨.scalar value style, true, a⟩
  | .sequence items closed =>
    let result := numberItems a items
    let closed := closed && result.isWhole
    ⟨.sequence result.value closed, closed, result.anchors⟩
  | .mapping members closed =>
    let result := numberMembers a members
    let closed := closed && result.isWhole
    ⟨.mapping result.value closed, closed, result.anchors⟩

/-- Number the anchors of items, up to the first that is not whole. -/
def numberItems (a : Anchors) : List (Node String) → Numbered (List (Node Nat))
  | [] => ⟨[], true, a⟩
  | item :: rest =>
    let first := numberNode a item
    if first.isWhole then
      let others := numberItems first.anchors rest
      { others with value := first.value :: others.value }
    else ⟨[first.value], false, first.anchors⟩

/-- Number the anchors of members, up to the first that is not whole. -/
def numberMembers (a : Anchors) :
    List (Node String × Node String) → Numbered (List (Node Nat × Node Nat))
  | [] => ⟨[], true, a⟩
  | (key, value) :: rest =>
    let first := numberNode a key
    if first.isWhole then
      let second := numberNode first.anchors value
      if second.isWhole then
        let others := numberMembers second.anchors rest
        { others with value := (first.value, second.value) :: others.value }
      else ⟨[(first.value, second.value)], false, second.anchors⟩
    else ⟨[(first.value, .broken)], false, first.anchors⟩

end

mutual

/-- The nodes with anchors in a node, in order. -/
def anchoredInNode : Node Nat → List (Nat × Node Nat)
  | .mk mark tag anchor content =>
    (anchor.map fun number => (number, Node.mk mark tag anchor content)).toList ++
      anchoredInContent content

/-- The nodes with anchors in what a node holds. -/
def anchoredInContent : Content Nat → List (Nat × Node Nat)
  | .broken | .alias _ | .scalar .. => []
  | .sequence items _ => anchoredInItems items
  | .mapping members _ => anchoredInMembers members

/-- The nodes with anchors in items. -/
def anchoredInItems : List (Node Nat) → List (Nat × Node Nat)
  | [] => []
  | item :: rest => anchoredInNode item ++ anchoredInItems rest

/-- The nodes with anchors in members. -/
def anchoredInMembers : List (Node Nat × Node Nat) → List (Nat × Node Nat)
  | [] => []
  | (key, value) :: rest =>
    anchoredInNode key ++ anchoredInNode value ++ anchoredInMembers rest

end

mutual

/-- How many marks a node needs if it is written out: one for a scalar or an alias, and two for
the beginning and the end of a sequence or a mapping. An end that is missing does not count. -/
def markCountOfNode : Node Nat → Nat
  | .mk _ _ _ content => markCountOfContent content

/-- How many marks it needs to write out what a node holds. -/
def markCountOfContent : Content Nat → Nat
  | .broken => 0
  | .alias _ | .scalar .. => 1
  | .sequence items closed => markCountOfItems items + if closed then 2 else 1
  | .mapping members closed => markCountOfMembers members + if closed then 2 else 1

/-- How many marks items need. -/
def markCountOfItems : List (Node Nat) → Nat
  | [] => 0
  | item :: rest => markCountOfNode item + markCountOfItems rest

/-- How many marks members need. -/
def markCountOfMembers : List (Node Nat × Node Nat) → Nat
  | [] => 0
  | (key, value) :: rest => markCountOfNode key + markCountOfNode value + markCountOfMembers rest

end

/-- The first document of a text. -/
structure Document where
  root : Node Nat
  /-- The nodes with anchors, the last one first. -/
  anchored : List (Nat × Node Nat)
  /-- Whether the text is the whole document and nothing else. -/
  isAll : Bool

namespace Document

/-- The first document of a text. Where there is none, it is an empty node. -/
def ofString (text : String) : Document :=
  let parsed := documentNode (tokens text)
  let root := numberNode [] parsed.node
  ⟨root.value, (anchoredInNode root.value).reverse, root.isWhole && endsText parsed.rest⟩

/-- The node with the given number. -/
def node? (d : Document) (number : Nat) : Option (Node Nat) :=
  d.anchored.lookup number

/-- How often aliases may be followed when a document is read. -/
def aliasLimit (d : Document) : Nat :=
  100 * markCountOfNode d.root

end Document

end ShellPages.Yaml
