import ShellPages.Yaml.Node

/-!
# From tokens to nodes

The nodes of a document are read off the tokens of a text by recursive descent. Where a node is
missing, an empty scalar stands for it. Where the tokens do not fit together, or end before the
text does, the nodes that have been begun are not whole.

Every reader takes a bound on its depth and on the number of its steps, and gives its result and
the tokens after it. After what is not whole there are none.
-/

namespace ShellPages.Yaml

/-- The tokens that are left. -/
abbrev Lexemes := List Lexeme

/-- The next token. -/
def head? (ts : Lexemes) : Option Token :=
  ts.head?.map Lexeme.token

/-- The place where the next token begins. -/
def startOf (ts : Lexemes) : Mark :=
  match ts with
  | [] => {}
  | t :: _ => t.start

/-! ## Properties -/

/-- What a handle stands for in a document. -/
abbrev Handles := List (String × List UInt8)

/-- The bytes of a text. -/
def bytesOf (s : String) : List UInt8 :=
  s.toUTF8.toList

/-- The handles of every document. -/
def standardHandles : Handles :=
  [("!", bytesOf "!"), ("!!", bytesOf "tag:yaml.org,2002:")]

/-- The bytes of a tag; none if its handle is unknown. -/
def resolveTag? (handles : Handles) (t : TagText) : Option (List UInt8) :=
  if t.handle.isEmpty then some t.rest
  else (handles.lookup t.handle).map fun beginning => beginning ++ t.rest

/-- The tag and the anchor of a node. -/
structure Properties where
  tag : Option TagText := none
  anchor : Option String := none

/-- The bytes of the tag, if there is one; none if its handle is unknown. -/
def Properties.resolve? (p : Properties) (handles : Handles) : Option (Option (List UInt8)) :=
  match p.tag with
  | none => some none
  | some tag => (resolveTag? handles tag).map some

/-- A tag or an anchor, unless there is one already. -/
def takeProperty (p : Properties) : Lexemes → Properties × Lexemes
  | ⟨.tag tag, s, e⟩ :: rest =>
    if p.tag.isNone then ({ p with tag := some tag }, rest) else (p, ⟨.tag tag, s, e⟩ :: rest)
  | ⟨.anchor name, s, e⟩ :: rest =>
    if p.anchor.isNone then ({ p with anchor := some name }, rest)
    else (p, ⟨.anchor name, s, e⟩ :: rest)
  | ts => (p, ts)

/-- At most one tag and one anchor, in any order. -/
def takeProperties (ts : Lexemes) : Properties × Lexemes :=
  let (p, ts) := takeProperty {} ts
  takeProperty p ts

/-! ## Nodes -/

/-- Where a node stands. -/
inductive Position where
  /-- In a block. -/
  | block
  /-- In a block, where the entries of a list need no deeper indentation. -/
  | indentless
  /-- Within brackets. -/
  | flow
  deriving DecidableEq

/-- Whether a key without node ends here. -/
def endsBlockNode : Option Token → Bool
  | some .key | some .value | some .blockEnd => true
  | _ => false

/-- Whether an entry without node ends here, in a list that has an indentation of its own. -/
def endsEntry : Option Token → Bool
  | some .blockEntry | some .blockEnd => true
  | _ => false

/-- Whether an entry without node ends here, in a list that has none. -/
def endsIndentlessEntry (t : Option Token) : Bool :=
  endsEntry t || endsBlockNode t

/-- Whether a node is missing before a comma or the end of the brackets. -/
def endsFlowNode (closing : Token) (t : Option Token) : Bool :=
  t == some .flowEntry || t == some closing

/-- A node and the tokens after it. -/
structure Parsed where
  node : Node String
  rest : Lexemes

namespace Parsed

/-- What is read where nothing can be. -/
def broken : Parsed := ⟨.broken, []⟩

/-- An empty node at a place. -/
def empty (place : Mark) (rest : Lexemes) : Parsed := ⟨.empty place, rest⟩

/-- An empty node where the next token begins, if there is one. -/
def nothingBefore : Lexemes → Parsed
  | [] => broken
  | t :: rest => empty t.start (t :: rest)

/-- The node after the mark of a value, which begins at the given place; without mark it is
empty. -/
def ofValue (ts : Lexemes) (read : Mark → Lexemes → Parsed) : Parsed :=
  match ts with
  | ⟨.value, _, stop⟩ :: rest => read stop rest
  | ts => nothingBefore ts

end Parsed

/-- A key with its value and the tokens after them. -/
structure ParsedMember where
  key : Node String
  value : Node String
  rest : Lexemes

/-- A key with its value, which is read if the key is whole. -/
def Parsed.withValue (key : Parsed) (read : Lexemes → Parsed) : ParsedMember :=
  if key.node.isWhole then ⟨key.node, (read key.rest).node, (read key.rest).rest⟩
  else ⟨key.node, .broken, []⟩

/-- Items or members, whether their end has been reached, and the tokens after it. -/
structure Series (α : Type) where
  elements : List α
  closed : Bool
  rest : Lexemes

namespace Series

variable {α : Type}

/-- A series whose end has been reached. -/
def finished (rest : Lexemes) : Series α := ⟨[], true, rest⟩

/-- A series that goes wrong. -/
def cut : Series α := ⟨[], false, []⟩

/-- A series with one more element before the others. -/
def cons (element : α) (s : Series α) : Series α :=
  { s with elements := element :: s.elements }

end Series

/-- An item and those after it, which are read if it is whole. -/
def Parsed.andThen (item : Parsed) (more : Lexemes → Series (Node String)) :
    Series (Node String) :=
  if item.node.isWhole then (more item.rest).cons item.node else Series.cut.cons item.node

/-- A member and those after it, which are read if it is whole. -/
def ParsedMember.andThen (m : ParsedMember) (more : Lexemes → Series (Node String × Node String)) :
    Series (Node String × Node String) :=
  if m.value.isWhole then (more m.rest).cons (m.key, m.value)
  else Series.cut.cons (m.key, m.value)

/-- A member as an item of a list, which ends before the next token. -/
def ParsedMember.alone (m : ParsedMember) (place : Mark) : Parsed :=
  ⟨.mk place none none (.mapping [(m.key, m.value)] (m.value.isWhole && !m.rest.isEmpty)), m.rest⟩

/-- The tokens after the comma before an item or a member; before the first there is none. Without
comma nothing can be read. -/
def afterComma (isFirst : Bool) (ts : Lexemes) : Lexemes :=
  match isFirst, ts with
  | true, ts => ts
  | false, ⟨.flowEntry, _, _⟩ :: rest => rest
  | false, _ => []

mutual

/-- A node. -/
def node (handles : Handles) : Nat → Position → Lexemes → Parsed
  | 0, _, _ => .broken
  | bound + 1, position, ts =>
    match ts with
    | ⟨.alias name, start, _⟩ :: rest => ⟨.mk start none none (.alias name), rest⟩
    | _ =>
      let start := startOf ts
      let (properties, ts) := takeProperties ts
      match properties.resolve? handles with
      | none => .broken
      | some tag =>
        let make (content : Content String) (rest : Lexemes) : Parsed :=
          ⟨.mk start tag properties.anchor content, rest⟩
        let sequence (s : Series (Node String)) := make (.sequence s.elements s.closed) s.rest
        let mapping (s : Series (Node String × Node String)) :=
          make (.mapping s.elements s.closed) s.rest
        match ts, position with
        | [], _ => .broken
        | ⟨.blockEntry, _, _⟩ :: _, .indentless => sequence (indentlessItems handles bound ts)
        | ⟨.scalar value style, _, _⟩ :: rest, _ => make (.scalar value style) rest
        | ⟨.flowSequenceStart, _, _⟩ :: rest, _ => sequence (flowItems handles bound true rest)
        | ⟨.flowMappingStart, _, _⟩ :: rest, _ => mapping (flowMembers handles bound true rest)
        | ⟨.blockSequenceStart, _, _⟩ :: rest, .block
        | ⟨.blockSequenceStart, _, _⟩ :: rest, .indentless =>
          sequence (blockItems handles bound rest)
        | ⟨.blockMappingStart, _, _⟩ :: rest, .block
        | ⟨.blockMappingStart, _, _⟩ :: rest, .indentless =>
          mapping (blockMembers handles bound rest)
        | ts, _ =>
          if properties.anchor.isSome || tag.isSome then make (.scalar "" .plain) ts else .broken

/-- The entries of a list with an indentation of its own. -/
def blockItems (handles : Handles) : Nat → Lexemes → Series (Node String)
  | 0, _ => .cut
  | bound + 1, ts =>
    match ts with
    | ⟨.blockEnd, _, _⟩ :: rest => .finished rest
    | ⟨.blockEntry, _, stop⟩ :: rest =>
      let item :=
        if endsEntry (head? rest) then .empty stop rest else node handles bound .block rest
      item.andThen (blockItems handles bound)
    | _ => .cut

/-- The entries of a list with the indentation of the mapping around it. -/
def indentlessItems (handles : Handles) : Nat → Lexemes → Series (Node String)
  | 0, _ => .cut
  | bound + 1, ts =>
    match ts with
    | [] => .cut
    | ⟨.blockEntry, _, stop⟩ :: rest =>
      let item :=
        if endsIndentlessEntry (head? rest) then .empty stop rest
        else node handles bound .block rest
      item.andThen (indentlessItems handles bound)
    | ts => .finished ts

/-- The members of a mapping that is not within brackets. -/
def blockMembers (handles : Handles) :
    Nat → Lexemes → Series (Node String × Node String)
  | 0, _ => .cut
  | bound + 1, ts =>
    let nodeOrEmpty (place : Mark) (ts : Lexemes) : Parsed :=
      if endsBlockNode (head? ts) then .empty place ts else node handles bound .indentless ts
    match ts with
    | ⟨.blockEnd, _, _⟩ :: rest => .finished rest
    | ⟨.key, _, stop⟩ :: rest =>
      let member := (nodeOrEmpty stop rest).withValue fun ts => .ofValue ts nodeOrEmpty
      member.andThen (blockMembers handles bound)
    | _ => .cut

/-- The items of a list within brackets, before the first one or after others. -/
def flowItems (handles : Handles) : Nat → Bool → Lexemes → Series (Node String)
  | 0, _, _ => .cut
  | bound + 1, isFirst, ts =>
    match ts with
    | ⟨.flowSequenceEnd, _, _⟩ :: rest => .finished rest
    | ts =>
      match afterComma isFirst ts with
      | ⟨.flowSequenceEnd, _, _⟩ :: rest => .finished rest
      | ⟨.key, start, _⟩ :: rest =>
        ((flowPair handles bound rest).alone start).andThen (flowItems handles bound false)
      | ts => (node handles bound .flow ts).andThen (flowItems handles bound false)

/-- A single member as an item of a list, after the mark of its key. Where there is no key, the
token that comes next belongs to the empty key, whatever it is. -/
def flowPair (handles : Handles) : Nat → Lexemes → ParsedMember
  | 0, _ => Parsed.broken.withValue fun _ => .broken
  | bound + 1, ts =>
    let key : Parsed :=
      match ts with
      | [] => .broken
      | t :: rest =>
        if t.token == .value || endsFlowNode .flowSequenceEnd (some t.token) then
          .empty t.stop rest
        else node handles bound .flow ts
    key.withValue fun ts => .ofValue ts fun _ ts =>
      if endsFlowNode .flowSequenceEnd (head? ts) then .nothingBefore ts
      else node handles bound .flow ts

/-- The members of a mapping within brackets, before the first one or after others. -/
def flowMembers (handles : Handles) :
    Nat → Bool → Lexemes → Series (Node String × Node String)
  | 0, _, _ => .cut
  | bound + 1, isFirst, ts =>
    match ts with
    | ⟨.flowMappingEnd, _, _⟩ :: rest => .finished rest
    | ts =>
      match afterComma isFirst ts with
      | ⟨.flowMappingEnd, _, _⟩ :: rest => .finished rest
      | ⟨.key, _, _⟩ :: rest =>
        let key :=
          if head? rest == some .value || endsFlowNode .flowMappingEnd (head? rest) then
            .nothingBefore rest
          else node handles bound .flow rest
        let member := key.withValue fun ts => .ofValue ts fun _ ts =>
          if endsFlowNode .flowMappingEnd (head? ts) then .nothingBefore ts
          else node handles bound .flow ts
        member.andThen (flowMembers handles bound false)
      | ts =>
        ((node handles bound .flow ts).withValue .nothingBefore).andThen
          (flowMembers handles bound false)

end

/-! ## Documents -/

/-- The versions of the format that can be read. -/
def isKnownVersion (major minor : Nat) : Bool :=
  major == 1 && (minor == 1 || minor == 2)

/-- The directives before a document; whether the version has been given, and the handles that
have been. No directive may be given twice. -/
def directives? (hasVersion : Bool) (handles : Handles) : Lexemes → Option (Handles × Lexemes)
  | ⟨.versionDirective major minor, _, _⟩ :: rest =>
    if hasVersion || !isKnownVersion major minor then none else directives? true handles rest
  | ⟨.tagDirective handle beginning, _, _⟩ :: rest =>
    if (handles.lookup handle).isSome then none
    else directives? hasVersion (handles ++ [(handle, beginning)]) rest
  | ts => some (handles ++ standardHandles, ts)

/-- Whether a document without node ends here. -/
def endsDocument : Option Token → Bool
  | some (.versionDirective ..) | some (.tagDirective ..) | some .documentStart
  | some .documentEnd | some .streamEnd => true
  | _ => false

/-- Whether a document begins here with directives or its mark. -/
def beginsExplicitly : Option Token → Bool
  | some (.versionDirective ..) | some (.tagDirective ..) | some .documentStart => true
  | _ => false

/-- The first node in some tokens. -/
def firstNode (handles : Handles) (ts : Lexemes) : Parsed :=
  node handles (2 * ts.length + 2) .block ts

/-- The node of the first document, which is empty if there is none. -/
def documentNode (ts : Lexemes) : Parsed :=
  if head? ts == some .streamEnd then .empty {} ts
  else if beginsExplicitly (head? ts) then
    match directives? false [] ts with
    | some (handles, ⟨.documentStart, _, _⟩ :: rest) =>
      if endsDocument (head? rest) then .nothingBefore rest else firstNode handles rest
    | _ => .broken
  else firstNode standardHandles ts

/-- Whether the text ends here, perhaps after marks for the end of a document. -/
def endsText (ts : Lexemes) : Bool :=
  head? (ts.dropWhile fun t => t.token == .documentEnd) == some .streamEnd

end ShellPages.Yaml
