import ShellPages.Json.Draft
import ShellPages.Json.Value

/-!
# Layouts of written values

The two written forms of a value differ in the blanks between its parts only. A `Layout` says which
blanks these are: before each item of a list or an object, before its end, and after the colon of a
member. `Layout.write` writes a value in a layout; `compact` and `pretty` are two of them
(`write_tight`, `write_lines`). So what holds of a value in every layout holds of both forms.
-/

namespace ShellPages.Json

/-- The blanks between the parts of a value. -/
structure Layout where
  /-- What comes before an item and before the end of a list or an object at a level. -/
  lineStart : Nat → List Char
  /-- What comes after a colon. -/
  gap : List Char
  isBlank_lineStart : ∀ level, ∀ c ∈ lineStart level, isBlank c
  isBlank_gap : ∀ c ∈ gap, isBlank c

namespace Layout

mutual

/-- A value in a layout, at the given level. -/
def write (l : Layout) (level : Nat) : Json → List Char
  | null => "null".toList
  | number n => Nat.toDigits 10 n
  | string s => writeText s
  | array [] => ['[', ']']
  | array (item :: rest) =>
    '[' :: l.lineStart (level + 1) ++ write l (level + 1) item ++
      writeItems l (level + 1) rest ++ l.lineStart level ++ [']']
  | object [] => ['\x7b', '\x7d']
  | object ((name, value) :: rest) =>
    '\x7b' :: l.lineStart (level + 1) ++ writeText name ++ ':' :: l.gap ++
      write l (level + 1) value ++ writeMembers l (level + 1) rest ++ l.lineStart level ++ ['\x7d']

/-- Further items, each after a comma. -/
def writeItems (l : Layout) (level : Nat) : List Json → List Char
  | [] => []
  | item :: rest => ',' :: l.lineStart level ++ write l level item ++ writeItems l level rest

/-- Further members, each after a comma. -/
def writeMembers (l : Layout) (level : Nat) : List (String × Json) → List Char
  | [] => []
  | (name, value) :: rest =>
    ',' :: l.lineStart level ++ writeText name ++ ':' :: l.gap ++ write l level value ++
      writeMembers l level rest

end

/-! ## The layout without any space -/

/-- No blanks at all. -/
def tight : Layout where
  lineStart _ := []
  gap := []
  isBlank_lineStart := by simp
  isBlank_gap := by simp

mutual

theorem write_tight (level : Nat) : ∀ j : Json, tight.write level j = j.write
  | null => rfl
  | number n => rfl
  | string s => rfl
  | array [] => rfl
  | array (item :: rest) => by
    rw [Json.write, writeItems_tight (level + 1) item rest, ← write_tight (level + 1) item, write]
    simp [tight]
  | object [] => rfl
  | object ((name, value) :: rest) => by
    rw [Json.write, writeMembers_tight (level + 1) name value rest,
      ← write_tight (level + 1) value, write]
    simp [tight]

theorem writeItems_tight (level : Nat) (item : Json) : ∀ rest : List Json,
    Json.writeItems (item :: rest) = item.write ++ tight.writeItems level rest
  | [] => (List.append_nil _).symm
  | next :: rest => by
    rw [Json.writeItems, writeItems_tight level next rest, ← write_tight level next, writeItems]
    · rfl
    · simp

theorem writeMembers_tight (level : Nat) (name : String) (value : Json) :
    ∀ rest : List (String × Json), Json.writeMembers ((name, value) :: rest) =
      writeText name ++ ':' :: value.write ++ tight.writeMembers level rest
  | [] => (List.append_nil _).symm
  | (next, nextValue) :: rest => by
    rw [Json.writeMembers, writeMembers_tight level next nextValue rest,
      ← write_tight level nextValue, writeMembers]
    · simp [tight]
    · simp

end

/-! ## The layout with one item a line -/

/-- A new line and two spaces for each level, and a space after a colon. -/
def lines : Layout where
  lineStart := newLine
  gap := [' ']
  isBlank_lineStart level c hc := by
    rcases List.mem_cons.1 hc with rfl | hc
    · rfl
    · rw [List.eq_of_mem_replicate hc]
      rfl
  isBlank_gap c hc := by
    rw [List.mem_singleton.1 hc]
    rfl

mutual

theorem write_lines (level : Nat) : ∀ j : Json, lines.write level j = j.writePretty level
  | null => rfl
  | number n => rfl
  | string s => rfl
  | array [] => rfl
  | array (item :: rest) => by
    rw [Json.writePretty, writeItems_lines (level + 1) item rest, ← write_lines (level + 1) item,
      write]
    · simp [lines]
    · simp
  | object [] => rfl
  | object ((name, value) :: rest) => by
    rw [Json.writePretty, writeMembers_lines (level + 1) name value rest,
      ← write_lines (level + 1) value, write]
    · simp [lines]
    · simp

theorem writeItems_lines (level : Nat) (item : Json) : ∀ rest : List Json,
    Json.writePrettyItems level (item :: rest) =
      newLine level ++ item.writePretty level ++ lines.writeItems level rest
  | [] => (List.append_nil _).symm
  | next :: rest => by
    rw [Json.writePrettyItems, writeItems_lines level next rest, ← write_lines level next,
      writeItems]
    · simp [lines]
    · simp

theorem writeMembers_lines (level : Nat) (name : String) (value : Json) :
    ∀ rest : List (String × Json), Json.writePrettyMembers level ((name, value) :: rest) =
      newLine level ++ writeText name ++ ':' :: ' ' :: value.writePretty level ++
        lines.writeMembers level rest
  | [] => (List.append_nil _).symm
  | (next, nextValue) :: rest => by
    rw [Json.writePrettyMembers, writeMembers_lines level next nextValue rest,
      ← write_lines level nextValue, writeMembers]
    · simp [lines]
    · simp

end

end Layout

/-- Both written forms of a value are the characters of it in some layout. -/
theorem exists_layout_eq {j : Json} {text : String} (h : text = j.compact ∨ text = j.pretty) :
    ∃ l : Layout, text.toList = l.write 0 j := by
  rcases h with rfl | rfl
  · exact ⟨.tight, by rw [compact, String.toList_ofList, Layout.write_tight]⟩
  · exact ⟨.lines, by rw [pretty, String.toList_ofList, Layout.write_lines]⟩

end ShellPages.Json
