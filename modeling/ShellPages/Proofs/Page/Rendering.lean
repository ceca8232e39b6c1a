import Mathlib.Data.List.SplitBy
import ShellPages.Proofs.Text.Edit
import ShellPages.Report.Pretty

/-!
# How pages are shown

A page is a sequence of pieces: text in which no tag starts, and tags. Rendering goes through the
whole page ten times, but the pieces can be shown one by one. A substitution of a tag is one piece
by piece (`substitute_written`), and so is dropping tags (`dropTags_written`). The entities are
independent codes, so that they are decoded in a single pass (`decodeEntities_eq`), and newlines are
counted run by run (`shortenRuns_eq`). The main statement, `render_pieces`, puts this together. Text
that is no piece, such as an entity with a tag in its middle, may become one once the tags are gone.
-/

namespace ShellPages.Page

/-! ## Pieces -/

/-- A part of a page: text in which no tag starts, or a tag. -/
inductive Piece where
  | text (cs : List Char) (noOpen : '<' ∉ cs)
  | tag (body : List Char) (noOpen : '<' ∉ body) (noClose : '>' ∉ body)

namespace Piece

/-- How a piece is written. -/
def written : Piece → List Char
  | text cs _ => cs
  | tag body _ _ => '<' :: (body ++ ['>'])

/-- The tags that end a line. -/
def lineEnds : List (List Char) :=
  ["<br>".toList, "<br/>".toList, "</p>".toList]

/-- What is shown of a piece: text as it is, and of tags only that they end a line. -/
def shown : Piece → List Char
  | text cs _ => cs
  | tag body noOpen noClose =>
    if (tag body noOpen noClose).written ∈ lineEnds then ['\n'] else []

/-- What a piece leaves when tags are dropped. -/
def plain : Piece → List Char
  | text cs _ => cs
  | tag .. => []

/-- The piece that is a newline. -/
def newline : Piece := text ['\n'] (by decide)

/-- The piece that ends a paragraph. -/
def paragraphEnd : Piece := tag ['/', 'p'] (by decide) (by decide)

/-- Put pieces in the place of a tag that is written as given. -/
def replace (old : List Char) (new : List Piece) (p : Piece) : List Piece :=
  if p.written = old then new else [p]

theorem replace_of_eq {old : List Char} {p : Piece} (h : p.written = old) (new : List Piece) :
    p.replace old new = new := if_pos h

theorem replace_of_ne {old : List Char} {p : Piece} (h : p.written ≠ old) (new : List Piece) :
    p.replace old new = [p] := if_neg h

/-- Text is not written as a tag is. -/
theorem written_text_ne {cs old : List Char} (h : '<' ∉ cs) (hold : '<' ∈ old) :
    (text cs h).written ≠ old := by
  rintro rfl
  exact h hold

end Piece

open Piece

/-! ## Substituting tags -/

/-- Bodies of tags are told apart by the first end of a tag. -/
theorem eq_of_body_prefix {body other : List Char} (hbody : '>' ∉ body) (hother : '>' ∉ other)
    {rest : List Char} (h : body ++ ['>'] <+: other ++ '>' :: rest) : body = other := by
  induction body generalizing other with
  | nil =>
    cases other with
    | nil => rfl
    | cons d other =>
      obtain ⟨rfl, -⟩ := List.cons_prefix_cons.1 h
      exact absurd List.mem_cons_self hother
  | cons c body ih =>
    rw [List.mem_cons, not_or] at hbody
    cases other with
    | nil => exact absurd (List.cons_prefix_cons.1 h).1.symm hbody.1
    | cons d other =>
      rw [List.mem_cons, not_or] at hother
      obtain ⟨rfl, htail⟩ := List.cons_prefix_cons.1 h
      rw [ih hbody.2 hother.2 htail]

/-- A tag is substituted piece by piece. -/
theorem substitute_written {old body : List Char} (hold : old = '<' :: (body ++ ['>']))
    (hclose : '>' ∉ body) (new pieces : List Piece) :
    Text.substitute old (new.flatMap written) (pieces.flatMap written) =
      (pieces.flatMap (replace old new)).flatMap written := by
  induction pieces with
  | nil => rfl
  | cons p pieces ih =>
    rw [List.flatMap_cons, List.flatMap_cons, List.flatMap_append, ← ih, replace]
    by_cases hp : p.written = old
    · rw [if_pos hp, hp, Text.substitute_append_self (by simp [hold])]
    · rw [if_neg hp, List.flatMap_singleton]
      cases p with
      | text cs noOpen =>
        rw [hold]
        exact Text.substitute_append_of_not_mem noOpen _ _ _
      | tag other noOpen noClose =>
        -- no tag starts inside this one, and it is another tag
        have hstart : ¬old <+: '<' :: (other ++ ['>'] ++ pieces.flatMap written) := by
          intro hprefix
          rw [hold, List.cons_prefix_cons, List.append_assoc, List.singleton_append] at hprefix
          obtain rfl := eq_of_body_prefix hclose noClose hprefix.2
          exact hp hold.symm
        have hinside : '<' ∉ other ++ ['>'] := by simp [noOpen]
        rw [written, List.cons_append, Text.substitute_cons_of_not_isPrefixOf hstart, hold,
          Text.substitute_append_of_not_mem hinside, List.cons_append]

/-! ## Dropping tags -/

theorem dropTags_append {cs : List Char} (h : '<' ∉ cs) (rest : List Char) :
    dropTags (cs ++ rest) = cs ++ dropTags rest := by
  induction cs with
  | nil => rfl
  | cons c cs ih =>
    rw [List.mem_cons, not_or] at h
    have hc : ¬(c == '<' && (cs ++ rest).contains '>') := by
      simp [Ne.symm h.1]
    rw [List.cons_append, dropTags, dropTagsFrom, if_neg Bool.false_ne_true, if_neg hc]
    exact congrArg (c :: ·) (ih h.2)

/-- The inside of a tag is dropped, with the end of the tag. -/
theorem dropTagsFrom_inside {body : List Char} (h : '>' ∉ body) (rest : List Char) :
    dropTagsFrom true (body ++ '>' :: rest) = dropTags rest := by
  induction body with
  | nil => rfl
  | cons c body ih =>
    rw [List.mem_cons, not_or] at h
    have hc : (c != '>') = true := by simpa using Ne.symm h.1
    rw [List.cons_append, dropTagsFrom, if_pos rfl, hc, ih h.2]

/-- Tags are dropped piece by piece. -/
theorem dropTags_written (pieces : List Piece) :
    dropTags (pieces.flatMap written) = pieces.flatMap plain := by
  induction pieces with
  | nil => rfl
  | cons p pieces ih =>
    rw [List.flatMap_cons, List.flatMap_cons, ← ih]
    cases p with
    | text cs noOpen => exact dropTags_append noOpen _
    | tag body noOpen noClose =>
      have hends : ('<' == '<' && (body ++ '>' :: pieces.flatMap written).contains '>') = true := by
        simp
      rw [written, plain, List.cons_append, List.append_assoc, List.singleton_append, dropTags,
        dropTagsFrom, if_neg Bool.false_ne_true, if_pos hends, dropTagsFrom_inside noClose]
      rfl

/-! ## Pages without their tags -/

/-- A piece after the substitutions of the tags that end a line. -/
def brokenUp (p : Piece) : List Piece :=
  ((p.replace "<br>".toList [newline]).flatMap (replace "<br/>".toList [newline])).flatMap
    (replace "</p>".toList [paragraphEnd, newline])

theorem breakLines_written (pieces : List Piece) :
    breakLines (pieces.flatMap written) = (pieces.flatMap brokenUp).flatMap written := by
  have hbreak : "<br>".toList = '<' :: (['b', 'r'] ++ ['>']) := by decide
  have hclosed : "<br/>".toList = '<' :: (['b', 'r', '/'] ++ ['>']) := by decide
  have hend : "</p>".toList = '<' :: (['/', 'p'] ++ ['>']) := by decide
  have hnewline : ['\n'] = [newline].flatMap written := rfl
  have hparagraph : "</p>\n".toList = [paragraphEnd, newline].flatMap written := by decide
  rw [breakLines, hnewline, hparagraph, substitute_written hbreak (by decide),
    substitute_written hclosed (by decide), substitute_written hend (by decide)]
  simp only [brokenUp, List.flatMap_assoc]

/-- A piece that is broken up has what is shown of it outside tags. -/
theorem plain_brokenUp (p : Piece) : (brokenUp p).flatMap plain = p.shown := by
  have hclosed : newline.written ≠ "<br/>".toList := by decide
  have hend : newline.written ≠ "</p>".toList := by decide
  cases p with
  | text cs noOpen =>
    rw [brokenUp, replace_of_ne (written_text_ne noOpen (by decide)), List.flatMap_singleton,
      replace_of_ne (written_text_ne noOpen (by decide)), List.flatMap_singleton,
      replace_of_ne (written_text_ne noOpen (by decide))]
    simp [plain, shown]
  | tag body noOpen noClose =>
    by_cases h₁ : (tag body noOpen noClose).written = "<br>".toList
    · rw [brokenUp, replace_of_eq h₁, List.flatMap_singleton, replace_of_ne hclosed,
        List.flatMap_singleton, replace_of_ne hend, shown, if_pos (by simp [lineEnds, h₁])]
      rfl
    rw [brokenUp, replace_of_ne h₁, List.flatMap_singleton]
    by_cases h₂ : (tag body noOpen noClose).written = "<br/>".toList
    · rw [replace_of_eq h₂, List.flatMap_singleton, replace_of_ne hend, shown,
        if_pos (by simp [lineEnds, h₂])]
      rfl
    rw [replace_of_ne h₂, List.flatMap_singleton]
    by_cases h₃ : (tag body noOpen noClose).written = "</p>".toList
    · rw [replace_of_eq h₃, shown, if_pos (by simp [lineEnds, h₃])]
      rfl
    · have hother : (tag body noOpen noClose).written ∉ lineEnds := by
        simp only [lineEnds, List.mem_cons, h₁, h₂, h₃, List.not_mem_nil, or_self,
          not_false_eq_true]
      rw [replace_of_ne h₃, shown, if_neg hother]
      rfl

/-- What is left of a page when its lines are broken and its tags are dropped. -/
theorem dropTags_breakLines (pieces : List Piece) :
    dropTags (breakLines (pieces.flatMap written)) = pieces.flatMap shown := by
  rw [breakLines_written, dropTags_written, List.flatMap_assoc]
  simp only [plain_brokenUp]

/-! ## Entities -/

theorem areIndependent_entities : Text.AreIndependent '&' entities where
  marked := by decide
  fresh := by decide

/-- Entities are decoded in a single pass. -/
theorem decodeEntities_eq (cs : List Char) :
    decodeEntities cs = Text.decodeOnce entities cs :=
  Text.foldl_substitute_eq_decodeOnce areIndependent_entities cs

/-! ## Runs of newlines -/

/-- What is left of a run of equal characters: of newlines, two at most. -/
def shortened (run : List Char) : List Char :=
  if run.head? = some '\n' then run.take 2 else run

/-- Runs are counted anew after another character. -/
theorem shortenRunsFrom_of_head? {cs : List Char} (h : cs.head? ≠ some '\n') (count : Nat) :
    shortenRunsFrom count cs = shortenRuns cs := by
  cases cs with
  | nil => rfl
  | cons c rest =>
    have hc : ¬c == '\n' := by simpa using h
    rw [shortenRuns, shortenRunsFrom, if_neg hc, shortenRunsFrom, if_neg hc]

/-- Of newlines as many are left as are missing to two. -/
theorem shortenRunsFrom_newlines (n count : Nat) {rest : List Char}
    (h : rest.head? ≠ some '\n') :
    shortenRunsFrom count (List.replicate n '\n' ++ rest) =
      List.replicate (min n (2 - count)) '\n' ++ shortenRuns rest := by
  induction n generalizing count with
  | zero => simpa using shortenRunsFrom_of_head? h count
  | succ n ih =>
    rw [List.replicate_succ, List.cons_append, shortenRunsFrom, if_pos (by decide)]
    by_cases hcount : count < 2
    · have hmin : min (n + 1) (2 - count) = min n (2 - (count + 1)) + 1 := by omega
      rw [if_pos hcount, ih, hmin, List.replicate_succ, List.cons_append]
    · have hzero : 2 - count = 0 := by omega
      rw [if_neg hcount, ih, hzero]
      simp

/-- Other characters stay. -/
theorem shortenRuns_others {c : Char} (hc : c ≠ '\n') (n : Nat) (rest : List Char) :
    shortenRuns (List.replicate n c ++ rest) = List.replicate n c ++ shortenRuns rest := by
  induction n with
  | zero => rfl
  | succ n ih =>
    rw [List.replicate_succ, List.cons_append, shortenRuns, shortenRunsFrom,
      if_neg (by simpa using hc)]
    exact congrArg (c :: ·) ih

/-- A run is shortened by itself if no more of it follows. -/
theorem shortenRuns_run {c : Char} (n : Nat) {rest : List Char} (h : rest.head? ≠ some c) :
    shortenRuns (List.replicate (n + 1) c ++ rest) =
      shortened (List.replicate (n + 1) c) ++ shortenRuns rest := by
  have hhead : (List.replicate (n + 1) c).head? = some c := rfl
  by_cases hc : c = '\n'
  · subst hc
    rw [shortenRuns, shortenRunsFrom_newlines _ _ h, shortened, if_pos hhead, List.take_replicate,
      Nat.min_comm]
  · rw [shortenRuns_others hc, shortened, if_neg (by simpa [hhead] using hc)]

/-- A run is one character again and again. -/
theorem exists_eq_replicate {run : List Char} (hne : run ≠ [])
    (h : run.IsChain fun a b => (a == b) = true) : ∃ n c, run = List.replicate (n + 1) c := by
  obtain ⟨c, rest, rfl⟩ := List.exists_cons_of_ne_nil hne
  simp only [beq_iff_eq] at h
  have hall := (List.pairwise_cons.1 (List.isChain_iff_pairwise.1 h)).1
  refine ⟨rest.length, c, ?_⟩
  rw [List.replicate_succ, ← List.eq_replicate_of_mem fun d hd => (hall d hd).symm]

/-- Runs are shortened one by one if none of them can be made longer. -/
theorem shortenRuns_flatten {runs : List (List Char)} (hne : [] ∉ runs)
    (hrun : ∀ run ∈ runs, run.IsChain fun a b => (a == b) = true)
    (hmax : runs.IsChain fun a b => ∃ ha hb, (a.getLast ha == b.head hb) = false) :
    shortenRuns runs.flatten = runs.flatMap shortened := by
  induction runs with
  | nil => rfl
  | cons run runs ih =>
    rw [List.mem_cons, not_or] at hne
    obtain ⟨hfirst, hothers⟩ := List.forall_mem_cons.1 hrun
    obtain ⟨hnext, hlater⟩ := List.isChain_cons.1 hmax
    obtain ⟨n, c, rfl⟩ := exists_eq_replicate (Ne.symm hne.1) hfirst
    have hhead : runs.flatten.head? ≠ some c := by
      cases runs with
      | nil => simp
      | cons next runs =>
        obtain ⟨_, hb, hdiffer⟩ := hnext next rfl
        rw [List.getLast_replicate, beq_eq_false_iff_ne] at hdiffer
        rw [List.flatten_cons, List.head?_append_of_ne_nil _ hb, List.head?_eq_some_head hb]
        exact fun h => hdiffer (Option.some.inj h).symm
    rw [List.flatten_cons, List.flatMap_cons, shortenRuns_run n hhead, ih hne.2 hothers hlater]

/-- **Every maximal run is shortened by itself.** -/
theorem shortenRuns_eq (cs : List Char) :
    shortenRuns cs = (cs.splitBy (· == ·)).flatMap shortened := by
  rw [← shortenRuns_flatten (List.nil_notMem_splitBy _ cs)
    (fun _ => List.isChain_of_mem_splitBy) (List.isChain_getLast_head_splitBy _ cs),
    List.flatten_splitBy]

/-! ## Pages as they are shown -/

/-- **How a page is shown.** Tags that end a line become newlines and other tags nothing, the six
entities are decoded in what is left, in a single pass that never reads what it has written, blanks
are dropped from both ends, and every maximal run of newlines is shortened to two. -/
theorem render_pieces (pieces : List Piece) :
    let decoded := Text.decodeOnce [("&lt;", '<'), ("&gt;", '>'), ("&quot;", '"'), ("&#39;", '\''),
      ("&nbsp;", ' '), ("&amp;", '&')] (pieces.flatMap shown)
    let trimmed := (decoded.dropWhile Text.isBlank).rdropWhile Text.isBlank
    render (String.ofList (pieces.flatMap written)) =
      String.ofList ((trimmed.splitBy (· == ·)).flatMap shortened) := by
  intro decoded trimmed
  have hdecoded : decodeEntities (dropTags (breakLines (pieces.flatMap written))) = decoded := by
    rw [dropTags_breakLines, decodeEntities_eq]
    rfl
  have htrimmed : Text.trimChars decoded = trimmed := by
    rw [Text.trimChars, Text.trimEnd_eq_rdropWhile, Text.trimStart]
  rw [render, String.toList_ofList, hdecoded, htrimmed, shortenRuns_eq]

/-- A page with every entity, one that only tags keep apart, and what decoding makes look like one,
between the tags that end a line. -/
def entityPieces : List Piece :=
  [text " &lt;&gt;&quot;&#39;&nbsp;&amp;|a&".toList (by decide),
    tag ['i'] (by decide) (by decide), text "lt;".toList (by decide),
    tag ['/', 'i'] (by decide) (by decide), text "&amp;gt;&GT;".toList (by decide),
    tag ['b', 'r'] (by decide) (by decide), tag ['b', 'r', '/'] (by decide) (by decide),
    tag ['/', 'p'] (by decide) (by decide), text "b &nbsp;\n".toList (by decide)]

theorem render_pieces_entityPieces :
    let page := String.ofList (entityPieces.flatMap written)
    let decoded := Text.decodeOnce [("&lt;", '<'), ("&gt;", '>'), ("&quot;", '"'), ("&#39;", '\''),
      ("&nbsp;", ' '), ("&amp;", '&')] (entityPieces.flatMap shown)
    let trimmed := (decoded.dropWhile Text.isBlank).rdropWhile Text.isBlank
    page = " &lt;&gt;&quot;&#39;&nbsp;&amp;|a&<i>lt;</i>&amp;gt;&GT;<br><br/></p>b &nbsp;\n" ∧
      render page = "<>\"' &|a<&gt;&GT;\n\nb" ∧
      String.ofList ((trimmed.splitBy (· == ·)).flatMap shortened) =
        "<>\"' &|a<&gt;&GT;\n\nb" := by
  intro page decoded trimmed
  have hshown : render page = "<>\"' &|a<&gt;&GT;\n\nb" := by decide
  exact ⟨by decide, hshown, (render_pieces entityPieces).symm.trans hshown⟩

end ShellPages.Page
