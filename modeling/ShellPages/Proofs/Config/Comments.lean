import ShellPages.Proofs.Config.Located
import ShellPages.Proofs.Config.Template

/-!
# Configurations without entries

A text whose lines hold nothing but spaces and comments (`HoldsNothing`) is skipped up to its end
(`Yaml.skipSpace_idle`): the invariant is that what is left consists of such lines. So its only
token is the one for the end (`Yaml.tokens_idle`), and it is read as the empty configuration, like
a text of blanks, which never comes that far (`Config.parse_comments`).
-/

namespace ShellPages

/-- The printable characters of ASCII. -/
def isPrintable (c : Char) : Bool :=
  ' ' ≤ c && c ≤ '~'

/-- A line without data: spaces, perhaps none, and perhaps a comment after them. -/
inductive IsIdleLine : List Char → Prop
  | spaces (n : Nat) : IsIdleLine (List.replicate n ' ')
  | comment (n : Nat) {said : List Char} (h : ∀ c ∈ said, isPrintable c) :
    IsIdleLine (List.replicate n ' ' ++ '#' :: said)

/-- A line without data, with the carriage return that may belong to its end. -/
def IsIdleEnded (line : List Char) : Prop :=
  IsIdleLine line ∨ ∃ front, IsIdleLine front ∧ line = front ++ ['\r']

/-- A text of which no line has data. -/
def HoldsNothing (text : String) : Prop :=
  ∀ line ∈ text.toList.splitOn '\n', IsIdleEnded line

theorem isPrintable_of_mem {line : List Char} (h : IsIdleLine line) :
    ∀ c ∈ line, isPrintable c := by
  have hspaces : ∀ n, ∀ c ∈ List.replicate n ' ', isPrintable c := by
    intro n c hc
    rw [List.eq_of_mem_replicate hc]
    decide
  cases h with
  | spaces n => exact hspaces n
  | comment n h =>
    rw [List.forall_mem_append, List.forall_mem_cons]
    exact ⟨hspaces n, by decide, h⟩

namespace Yaml

/-- What is left of a text without data: lines without data between line breaks. -/
inductive IsIdle : List Char → Prop
  | last {line : List Char} (h : IsIdleLine line) : IsIdle line
  | line {line rest : List Char} (h : IsIdleLine line) (hrest : IsIdle rest) :
    IsIdle (line ++ '\n' :: rest)

/-! ## Cells -/

theorem not_isBreak_of_isPrintable {c : Char} (h : isPrintable c) : ¬isBreak c := by
  intro hbreak
  simp only [isBreak, Bool.or_eq_true, beq_iff_eq] at hbreak
  rcases hbreak with (((rfl | rfl) | rfl) | rfl) | rfl <;> exact absurd h (by decide)

/-- The characters of the cells of a text. -/
def chars (m : Mark) (cs : List Char) : List Char :=
  (cellsFrom m cs).1.map Cell.char

/-- Characters that end no line stay as they are. -/
theorem exists_chars_append {line : List Char} (h : ∀ c ∈ line, ¬isBreak c) (m : Mark)
    (rest : List Char) : ∃ m', chars m (line ++ rest) = line ++ chars m' rest := by
  induction line generalizing m with
  | nil => exact ⟨m, rfl⟩
  | cons c line ih =>
    rw [List.forall_mem_cons] at h
    have hc : c ≠ '\r' := by
      rintro rfl
      exact h.1 (by decide)
    obtain ⟨m', hrest⟩ := ih h.2 (m.next c)
    refine ⟨m', ?_⟩
    rw [List.cons_append, chars, cellsFrom.eq_3 m c _ (by simp [hc]), if_neg h.1, List.cons_append,
      ← hrest]
    rfl

theorem exists_chars_idleLine {line : List Char} (h : IsIdleLine line) (m : Mark)
    (rest : List Char) : ∃ m', chars m (line ++ rest) = line ++ chars m' rest :=
  exists_chars_append (fun c hc => not_isBreak_of_isPrintable (isPrintable_of_mem h c hc)) m rest

/-- A line break in front of which a carriage return may stand is a single one. -/
theorem exists_chars_idleEnded {line : List Char} (h : IsIdleEnded line) (m : Mark)
    (rest : List Char) :
    ∃ front m', IsIdleLine front ∧
      chars m (line ++ '\n' :: rest) = front ++ '\n' :: chars m' rest := by
  rcases h with hidle | ⟨front, hidle, rfl⟩
  · obtain ⟨m', hchars⟩ := exists_chars_idleLine hidle m ('\n' :: rest)
    exact ⟨line, _, hidle, hchars⟩
  · obtain ⟨m', hchars⟩ := exists_chars_idleLine hidle m ('\r' :: '\n' :: rest)
    rw [List.append_assoc]
    exact ⟨front, _, hidle, hchars⟩

/-- The last line may end in a carriage return as well, which is a line break there. -/
theorem isIdle_chars_last {line : List Char} (h : IsIdleEnded line) (m : Mark) :
    IsIdle (chars m line) := by
  rcases h with hidle | ⟨front, hidle, rfl⟩
  · obtain ⟨m', hchars⟩ := exists_chars_idleLine hidle m []
    rw [List.append_nil] at hchars
    rw [hchars]
    simpa [chars, cellsFrom] using IsIdle.last hidle
  · obtain ⟨m', hchars⟩ := exists_chars_idleLine hidle m ['\r']
    rw [hchars]
    exact .line hidle (.last (.spaces 0))

/-- The cells of lines without data are such lines. -/
theorem isIdle_chars {lines : List (List Char)} (hne : lines ≠ [])
    (h : ∀ line ∈ lines, IsIdleEnded line) (m : Mark) :
    IsIdle (chars m (['\n'].intercalate lines)) := by
  induction lines generalizing m with
  | nil => exact absurd rfl hne
  | cons line lines ih =>
    rw [List.forall_mem_cons] at h
    cases lines with
    | nil =>
      rw [List.intercalate_singleton]
      exact isIdle_chars_last h.1 m
    | cons next lines =>
      obtain ⟨front, m', hfront, hchars⟩ :=
        exists_chars_idleEnded h.1 m (['\n'].intercalate (next :: lines))
      rw [List.intercalate_cons_cons, List.append_assoc, List.singleton_append, hchars]
      exact .line hfront (ih (List.cons_ne_nil _ _) h.2 m')

/-! ## Skipping -/

theorem Input.startsWith_iff {t : Input} {ch : Char} :
    t.startsWith ch ↔ ∃ c, t.cells.head? = some c ∧ c.char = ch := by
  rw [Input.startsWith, Input.head?, beq_iff_eq, Option.map_eq_some_iff]

theorem Input.dropWhile_append {skipped more : List Cell} {p : Char → Bool}
    (h : ∀ c ∈ skipped, p c.char) (hmore : ∀ c ∈ more.head?, ¬p c.char) (last : Mark) :
    (⟨skipped ++ more, last⟩ : Input).dropWhile p = ⟨more, last⟩ := by
  have hcells : (skipped ++ more).dropWhile (fun c => p c.char) = more := by
    induction skipped with
    | nil =>
      cases more with
      | nil => rfl
      | cons c more => exact List.dropWhile_cons_of_neg (hmore c rfl)
    | cons c skipped ih =>
      rw [List.forall_mem_cons] at h
      rw [List.cons_append, List.dropWhile_cons_of_pos (by exact h.1), ih h.2]
  rw [Input.dropWhile, hcells]

theorem dropWhile_spaces {n : Nat} {spaces more : List Cell}
    (h : spaces.map Cell.char = List.replicate n ' ') (hmore : ∀ c ∈ more.head?, c.char ≠ ' ')
    (last : Mark) : (⟨spaces ++ more, last⟩ : Input).dropWhile (· == ' ') = ⟨more, last⟩ := by
  refine Input.dropWhile_append (fun c hc => ?_) (fun c hc => by simpa using hmore c hc) last
  have hmem : c.char ∈ List.replicate n ' ' := h ▸ List.mem_map_of_mem hc
  exact beq_iff_eq.2 (List.eq_of_mem_replicate hmem)

/-- The characters of a line without data are skipped up to its end. -/
theorem dropComment_dropSpaces {line more : List Cell} (h : IsIdleLine (line.map Cell.char))
    (hmore : ∀ c ∈ more.head?, c.char = '\n') (last : Mark) :
    ((⟨line ++ more, last⟩ : Input).dropWhile (· == ' ')).dropComment = ⟨more, last⟩ := by
  generalize hline : line.map Cell.char = cs at h
  cases h with
  | spaces n =>
    rw [dropWhile_spaces hline (fun c hc => hmore c hc ▸ by decide), Input.dropComment, if_neg]
    -- at the end of the line no comment starts
    rw [Input.startsWith_iff]
    rintro ⟨c, hc, hchar⟩
    exact absurd ((hmore c hc).symm.trans hchar) (by decide)
  | comment n hsaid =>
    obtain ⟨spaces, comment, rfl, hspaces, hcomment⟩ := List.map_eq_append_iff.1 hline
    obtain ⟨mark, said, rfl, hmark, rfl⟩ := List.map_eq_cons_iff.1 hcomment
    have hstart : ∀ c ∈ (mark :: said ++ more).head?, c.char ≠ ' ' := by
      rintro _ ⟨⟩
      rw [hmark]
      decide
    have hcomment : ∀ c ∈ mark :: said, (!isBreak c.char) = true := by
      rw [List.forall_mem_cons, hmark]
      refine ⟨by decide, fun c hc => ?_⟩
      simpa using not_isBreak_of_isPrintable (hsaid _ (List.mem_map_of_mem hc))
    rw [List.append_assoc, dropWhile_spaces hspaces hstart, Input.dropComment, if_pos]
    · refine Input.dropWhile_append hcomment (fun c hc => ?_) last
      rw [hmore c hc]
      decide
    · exact Input.startsWith_iff.2 ⟨mark, rfl, hmark⟩

/-- A line without data is skipped, and with it the line break after it. -/
theorem skipSpace_line {line more : List Cell} (h : IsIdleLine (line.map Cell.char))
    (hmore : ∀ c ∈ more.head?, c.char = '\n') (last : Mark) (bound : Nat) :
    Scanner.skipSpace (bound + 1) { rest := ⟨line ++ more, last⟩ } =
      if more.isEmpty then { rest := ⟨[], last⟩ }
      else Scanner.skipSpace bound { rest := ⟨more.drop 1, last⟩ } := by
  have hmark : ¬(⟨line ++ more, last⟩ : Input).startsWith byteOrderMark := by
    rw [Input.startsWith_iff]
    rintro ⟨c, hc, hchar⟩
    cases line with
    | nil => exact absurd ((hmore c hc).symm.trans hchar) (by decide)
    | cons d line =>
      cases hc
      have hprintable := isPrintable_of_mem h c.char List.mem_cons_self
      rw [hchar] at hprintable
      exact absurd hprintable (by decide)
  rw [Scanner.skipSpace]
  -- outside of brackets a tab counts as a space only where no key may begin
  simp only [Scanner.inFlow, List.isEmpty_nil, Bool.not_true, Bool.or_self, Bool.false_and,
    Bool.or_false, hmark, Bool.and_false, Bool.false_eq_true, if_false,
    dropComment_dropSpaces h hmore last]
  cases more with
  | nil => rfl
  | cons feed more =>
    have hend : (⟨feed :: more, last⟩ : Input).isLineEnd := by
      rw [Input.isLineEnd, Input.head?, List.head?_cons, Option.map_some, hmore feed rfl]
      decide
    simp [Input.isEmpty, Input.drop, hend]

/-- **A text without data is skipped** up to its end, where nothing has been found in it. -/
theorem skipSpace_idle {cells : List Cell} (h : IsIdle (cells.map Cell.char)) (last : Mark)
    {bound : Nat} (hbound : cells.length < bound) :
    Scanner.skipSpace bound { rest := ⟨cells, last⟩ } = { rest := ⟨[], last⟩ } := by
  generalize hcells : cells.map Cell.char = cs at h
  induction h generalizing cells bound with
  | last hline =>
    obtain ⟨bound, rfl⟩ := Nat.exists_eq_succ_of_ne_zero (Nat.ne_zero_of_lt hbound)
    rw [← hcells] at hline
    have hend : ∀ c ∈ ([] : List Cell).head?, c.char = '\n' := by simp
    have hstep := skipSpace_line hline hend last bound
    rwa [List.append_nil] at hstep
  | line hline hrest ih =>
    obtain ⟨bound, rfl⟩ := Nat.exists_eq_succ_of_ne_zero (Nat.ne_zero_of_lt hbound)
    obtain ⟨front, back, rfl, rfl, hback⟩ := List.map_eq_append_iff.1 hcells
    obtain ⟨feed, more, rfl, hfeed, hmore⟩ := List.map_eq_cons_iff.1 hback
    have hstop : ∀ c ∈ (feed :: more).head?, c.char = '\n' := by
      rintro _ ⟨⟩
      exact hfeed
    rw [skipSpace_line hline hstop]
    rw [List.length_append, List.length_cons] at hbound
    have hmoreBound : more.length < bound := by omega
    exact ih hmoreBound hmore

/-! ## Reading -/

/-- Outside of all blocks there is none to close. -/
theorem closeBlocks_outside {s : Scanner} (h : s.indent = -1) {column : Int} (hc : -1 ≤ column) :
    s.closeBlocks column = s := by
  rw [Scanner.closeBlocks]
  split
  · rfl
  · rw [Scanner.closeBlocksUpTo, if_neg (by omega)]

/-- Where skipping from the start reaches the end, the only token is the one for the end. -/
theorem run_of_skipSpace {start : Scanner} {bound : Nat} {last : Mark}
    (h : start.skipSpace (bound + 1) = { rest := ⟨[], last⟩ }) :
    start.run (bound + 1) = [⟨.streamEnd, last.finish, last.finish⟩] := by
  have hnext : start.toNextToken? (bound + 1) = some { rest := ⟨[], last⟩ } := by
    rw [Scanner.toNextToken?, h]
    exact congrArg some (closeBlocks_outside rfl (by omega))
  unfold Scanner.run
  rw [hnext]
  rfl

/-- The lines of a text without data hold allowed characters. -/
theorem isAllowed_of_line {line : List Char} (h : IsIdleEnded line) : ∀ c ∈ line, isAllowed c := by
  have hidle : ∀ {line}, IsIdleLine line → ∀ c ∈ line, isAllowed c := by
    intro line hline c hc
    have hprintable : (' ' ≤ c && c ≤ '~') = true := isPrintable_of_mem hline c hc
    simp [isAllowed, hprintable]
  rcases h with hline | ⟨front, hfront, rfl⟩
  · exact hidle hline
  · rw [List.forall_mem_append, List.forall_mem_singleton]
    exact ⟨hidle hfront, by decide⟩

theorem isAllowed_intercalate {lines : List (List Char)}
    (h : ∀ line ∈ lines, ∀ c ∈ line, isAllowed c) :
    ∀ c ∈ ['\n'].intercalate lines, isAllowed c := by
  induction lines with
  | nil => simp
  | cons line lines ih =>
    rw [List.forall_mem_cons] at h
    cases lines with
    | nil => simpa using h.1
    | cons next lines =>
      rw [List.intercalate_cons_cons, List.forall_mem_append, List.forall_mem_append,
        List.forall_mem_singleton]
      exact ⟨⟨h.1, by decide⟩, ih h.2⟩

/-- The only token of a text without data is the one for its end. -/
theorem tokens_idle {text : String} (h : HoldsNothing text) :
    ∃ m, tokensOf text.toList = [⟨.streamEnd, m, m⟩] := by
  have htext : ['\n'].intercalate (text.toList.splitOn '\n') = text.toList :=
    List.intercalate_splitOn '\n'
  have hallowed : ∀ c ∈ text.toList, isAllowed c := by
    rw [← htext]
    exact isAllowed_intercalate fun line hline => isAllowed_of_line (h line hline)
  have hidle : IsIdle (chars {} text.toList) := by
    rw [← htext]
    exact isIdle_chars (List.splitOn_ne_nil _ _) h {}
  rw [tokensOf, if_pos (List.all_eq_true.2 hallowed)]
  exact ⟨_, run_of_skipSpace (skipSpace_idle hidle _ (Nat.lt_succ_self _))⟩

end Yaml

namespace Config

/-- Reading tokens of nothing gives the empty configuration. -/
theorem parseChars_of_tokens {cs : List Char} {m : Yaml.Mark}
    (h : Yaml.tokensOf cs = [⟨.streamEnd, m, m⟩]) : parseChars cs = .ok {} := by
  rw [parseChars]
  split
  · rfl
  · rw [h]
    rfl

/-- **A configuration with nothing in it is the default.** A text of lines that are empty or hold
only spaces and a comment is read as the empty configuration, like the empty text. So a file of
which all entries are commented out is like an empty file. -/
theorem parse_comments (text : String) (h : HoldsNothing text) :
    parse text = .ok {} ∧ parse text = parse "" ∧
      ∀ (m : Machine) (path : String), m.readText path = .ok text → m.readConfig path = .ok {} := by
  obtain ⟨m, htokens⟩ := Yaml.tokens_idle h
  have hparse : parse text = .ok {} := by
    rw [parse_eq_parseChars, parseChars_of_tokens htokens]
  refine ⟨hparse, hparse, fun m path hread => ?_⟩
  -- there is no root that the place of the file could change
  have hlocated : ({} : Config).locatedAt path = {} := locatedAt_of_no_root rfl
  exact Machine.readConfig_eq_ok_iff.2 ⟨{}, ⟨text, hread, hparse⟩, hlocated.symm⟩

/-- Lines that are empty, of spaces and commented out, of which one ends in a carriage return. -/
theorem parse_comments_entries :
    HoldsNothing "# shelldoc\n\n  \n  # root: ./docs\r\n#" ∧
      parse "# shelldoc\n\n  \n  # root: ./docs\r\n#" = .ok {} := by
  have hlines : HoldsNothing "# shelldoc\n\n  \n  # root: ./docs\r\n#" := by
    have hsplit : "# shelldoc\n\n  \n  # root: ./docs\r\n#".toList.splitOn '\n' =
        ["# shelldoc".toList, [], [' ', ' '], "  # root: ./docs\r".toList, ['#']] := by
      decide
    rw [HoldsNothing, hsplit]
    simp only [List.forall_mem_cons]
    have hheading : ∀ c ∈ " shelldoc".toList, isPrintable c := by simp [isPrintable]
    have hentry : ∀ c ∈ " root: ./docs".toList, isPrintable c := by simp [isPrintable]
    exact ⟨.inl (.comment 0 hheading), .inl (.spaces 0), .inl (.spaces 2),
      .inr ⟨_, .comment 2 hentry, rfl⟩, .inl (.comment 0 (List.forall_mem_nil _)),
      List.forall_mem_nil _⟩
  exact ⟨hlines, (parse_comments _ hlines).1⟩

end Config

end ShellPages
