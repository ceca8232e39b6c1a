import ShellPages.Proofs.Page.Rendering
import ShellPages.Proofs.Text.Edit

/-!
# What shown pages look like

However a page is written, it is shown as text without blanks at its ends and with at most two
newlines in a row (`IsTidy`). Trimming comes before the newlines are counted, which takes away none
of the characters at the ends (`isTidy_shown`), and text of this form is shown as it is
(`shown_eq_self`). Dropping tags leaves no `<` that a `>` follows (`not_sublist_dropTagsFrom`), and
if no entity is decoded, what comes after that only takes characters away. The main statement is
`render_form`: such text is what is shown, and it is shown as it is.
-/

namespace ShellPages.Page

variable {cs : List Char}

/-- Text without blanks at its ends and with at most two newlines in a row. -/
structure IsTidy (cs : List Char) : Prop extends Text.IsTrim cs where
  runs : ¬['\n', '\n', '\n'] <:+: cs

/-! ## Runs of newlines -/

theorem shortenRunsFrom_sublist (run : Nat) (cs : List Char) :
    (shortenRunsFrom run cs).Sublist cs := by
  induction cs generalizing run with
  | nil => exact .slnil
  | cons c rest ih =>
    rw [shortenRunsFrom]
    split
    · split
      · exact (ih _).cons_cons c
      · exact (ih _).cons c
    · exact (ih _).cons_cons c

/-- After a run of some newlines there are fewer than three with it, and never three later. -/
theorem not_newlines_shortenRunsFrom {run : Nat} (hrun : run ≤ 2) (cs : List Char) :
    ¬List.replicate (3 - run) '\n' <+: shortenRunsFrom run cs ∧
      ¬List.replicate 3 '\n' <:+: shortenRunsFrom run cs := by
  induction cs generalizing run with
  | nil =>
    have hlength : 3 - run ≠ 0 := by omega
    simp [shortenRunsFrom, hlength]
  | cons c rest ih =>
    have hsplit : List.replicate (3 - run) '\n' = '\n' :: List.replicate (2 - run) '\n' := by
      rw [← List.replicate_succ, show 2 - run + 1 = 3 - run by omega]
    have hfewer : List.replicate (3 - run) '\n' <+: List.replicate 3 '\n' :=
      ⟨List.replicate run '\n', by rw [List.replicate_append_replicate]; congr; omega⟩
    -- three newlines start at the first character only if the missing ones do
    have hcons : ∀ {d tail}, ¬List.replicate (3 - run) '\n' <+: d :: tail →
        ¬List.replicate 3 '\n' <:+: tail →
        ¬List.replicate (3 - run) '\n' <+: d :: tail ∧
          ¬List.replicate 3 '\n' <:+: d :: tail := by
      intro d tail hfirst hlater
      refine ⟨hfirst, fun hthree => ?_⟩
      rcases List.infix_cons_iff.1 hthree with hprefix | hthree
      · exact hfirst (hfewer.trans hprefix)
      · exact hlater hthree
    rw [shortenRunsFrom]
    split
    · next hc =>
      split
      · next hless =>
        obtain ⟨hfirst, hlater⟩ := ih (show run + 1 ≤ 2 by omega)
        refine hcons ?_ hlater
        rw [hsplit, List.cons_prefix_cons, show 2 - run = 3 - (run + 1) by omega]
        exact fun hprefix => hfirst hprefix.2
      · exact ih hrun
    · next hc =>
      refine hcons ?_ (ih (Nat.zero_le 2)).2
      rw [hsplit, List.cons_prefix_cons]
      exact fun hprefix => hc (beq_iff_eq.2 hprefix.1.symm)

theorem shortenRunsFrom_concat {c : Char} (hc : c ≠ '\n') (run : Nat) (cs : List Char) :
    shortenRunsFrom run (cs ++ [c]) = shortenRunsFrom run cs ++ [c] := by
  induction cs generalizing run with
  | nil => simp [shortenRunsFrom, hc]
  | cons d rest ih =>
    rw [List.cons_append, shortenRunsFrom, shortenRunsFrom]
    split
    · split
      · rw [ih, List.cons_append]
      · exact ih _
    · rw [ih, List.cons_append]

theorem head?_shortenRuns (cs : List Char) : (shortenRuns cs).head? = cs.head? := by
  cases cs with
  | nil => rfl
  | cons c rest =>
    rw [shortenRuns, shortenRunsFrom]
    split <;> rfl

/-- Text with at most two newlines in a row stays as it is. -/
theorem shortenRunsFrom_eq_self {run : Nat}
    (h : ¬List.replicate 3 '\n' <:+: List.replicate run '\n' ++ cs) :
    shortenRunsFrom run cs = cs := by
  induction cs generalizing run with
  | nil => rfl
  | cons c rest ih =>
    rw [shortenRunsFrom]
    split
    · next hc =>
      obtain rfl := eq_of_beq hc
      have hrun : List.replicate run '\n' ++ '\n' :: rest =
          List.replicate (run + 1) '\n' ++ rest := by
        rw [List.replicate_succ', List.append_assoc, List.singleton_append]
      rw [hrun] at h
      have hless : run < 2 := by
        by_contra hmore
        refine h ⟨[], List.replicate (run - 2) '\n' ++ rest, ?_⟩
        have hlength : 3 + (run - 2) = run + 1 := by omega
        rw [List.nil_append, ← List.append_assoc, List.replicate_append_replicate, hlength]
      rw [if_pos hless, ih h]
    · have hrest : ¬List.replicate 3 '\n' <:+: List.replicate 0 '\n' ++ rest := fun hthree =>
        h (hthree.trans ⟨List.replicate run '\n' ++ [c], [], by simp⟩)
      rw [ih hrest]

/-! ## Shown text -/

/-- **Shown text is tidy**: counting newlines after trimming leaves the characters at both ends. -/
theorem isTidy_shown (cs : List Char) : IsTidy (shortenRuns (Text.trimChars cs)) := by
  have htrim := Text.isTrim_trimChars cs
  generalize Text.trimChars cs = trimmed at htrim
  refine { head := ?_, last := ?_, runs := (not_newlines_shortenRunsFrom (Nat.zero_le 2) _).2 }
  · rw [head?_shortenRuns]
    exact htrim.head
  · rcases List.eq_nil_or_concat' trimmed with rfl | ⟨front, final, rfl⟩
    · simp [shortenRuns, shortenRunsFrom]
    · have hblank : ¬Text.isBlank final := htrim.last final (by simp)
      have hnewline : final ≠ '\n' := by
        rintro rfl
        exact hblank (by decide)
      rw [shortenRuns, shortenRunsFrom_concat hnewline, List.getLast?_concat]
      rintro _ ⟨⟩
      exact hblank

/-- Tidy text is shown as it is. -/
theorem shown_eq_self (h : IsTidy cs) : shortenRuns (Text.trimChars cs) = cs := by
  rw [Text.trimChars_eq_self h.toIsTrim]
  exact shortenRunsFrom_eq_self h.runs

/-! ## Text without tags -/

theorem dropTagsFrom_sublist (inside : Bool) (cs : List Char) :
    (dropTagsFrom inside cs).Sublist cs := by
  induction cs generalizing inside with
  | nil => exact .slnil
  | cons c rest ih =>
    rw [dropTagsFrom]
    split
    · exact (ih _).cons c
    · split
      · exact (ih _).cons c
      · exact (ih _).cons_cons c

/-- **No tag is left**: where `<` is kept, no `>` follows. -/
theorem not_sublist_dropTagsFrom (inside : Bool) (cs : List Char) :
    ¬['<', '>'].Sublist (dropTagsFrom inside cs) := by
  induction cs generalizing inside with
  | nil => simp [dropTagsFrom]
  | cons c rest ih =>
    rw [dropTagsFrom]
    split
    · exact ih _
    split
    · exact ih _
    · next hkept =>
      intro hsublist
      cases hsublist with
      | cons _ hlater => exact ih _ hlater
      | cons_cons _ hend =>
        -- a kept `<` has no `>` after it on the page, so none after it in what is left
        have hclose : '>' ∈ rest :=
          (dropTagsFrom_sublist false rest).subset (List.singleton_sublist.1 hend)
        exact hkept (by simp [hclose])

/-- Text in which no `>` follows a `<` has no tag to drop. -/
theorem dropTags_eq_self (h : ¬['<', '>'].Sublist cs) : dropTags cs = cs := by
  induction cs with
  | nil => rfl
  | cons c rest ih =>
    have hc : ¬(c == '<' && rest.contains '>') := by
      intro htag
      simp only [Bool.and_eq_true, beq_iff_eq, List.contains_iff_mem] at htag
      obtain ⟨rfl, hclose⟩ := htag
      exact h ((List.singleton_sublist.2 hclose).cons_cons _)
    rw [dropTags, dropTagsFrom, if_neg Bool.false_ne_true, if_neg hc]
    exact congrArg (c :: ·) (ih fun hrest => h (hrest.cons c))

/-- Text in which no `>` follows a `<` has no tag that ends a line. -/
theorem breakLines_eq_self (h : ¬['<', '>'].Sublist cs) : breakLines cs = cs := by
  have htag : ∀ tag ∈ Piece.lineEnds, ∀ new, Text.substitute tag new cs = cs := by
    intro tag hmem new
    have hopen : ∀ tag ∈ Piece.lineEnds, ['<', '>'].Sublist tag := by decide
    exact Text.substitute_eq_self (fun hsublist => h ((hopen tag hmem).trans hsublist)) new
  have hbreak := htag "<br>".toList (by decide)
  have hclosed := htag "<br/>".toList (by decide)
  have hend := htag "</p>".toList (by decide)
  rw [breakLines, hbreak, hclosed, hend]

/-! ## Text without entities -/

/-- Breaking lines writes newlines and ends of paragraphs only. -/
theorem mem_breakLines {c : Char} (h : c ∈ breakLines cs) : c ∈ "</p>\n".toList ∨ c ∈ cs := by
  have hnewline : c ∈ ['\n'] → c ∈ "</p>\n".toList := by
    rw [List.mem_singleton]
    rintro rfl
    decide
  rcases Text.mem_substitute h with hnew | hmem
  · exact .inl hnew
  rcases Text.mem_substitute hmem with hnew | hmem
  · exact .inl (hnewline hnew)
  · exact (Text.mem_substitute hmem).imp_left hnewline

/-- Every entity starts with `&`, so text without it stays. -/
theorem decodeEntities_eq_self (h : '&' ∉ cs) : decodeEntities cs = cs := by
  rw [decodeEntities_eq, Text.decodeOnce_eq_self areIndependent_entities h]

/-- Decoding entities writes the characters they stand for only. -/
theorem mem_decodeEntities {c : Char} (h : c ∈ decodeEntities cs) :
    c ∈ entities.map Prod.snd ∨ c ∈ cs := by
  unfold decodeEntities at h
  generalize entities = codes at h
  induction codes generalizing cs with
  | nil => exact .inr h
  | cons code codes ih =>
    rcases ih h with hlater | hmem
    · exact .inl (List.mem_cons_of_mem _ hlater)
    · rcases Text.mem_substitute hmem with hnew | hmem
      · exact .inl (List.mem_singleton.1 hnew ▸ List.mem_cons_self)
      · exact .inr hmem

/-- From a page without `&`, no `<` is shown that a `>` follows. -/
theorem not_sublist_shown (h : '&' ∉ cs) :
    ¬['<', '>'].Sublist
      (shortenRuns (Text.trimChars (decodeEntities (dropTags (breakLines cs))))) := by
  have hdropped : '&' ∉ dropTags (breakLines cs) := fun hmem =>
    (mem_breakLines ((dropTagsFrom_sublist false _).subset hmem)).elim (absurd · (by decide)) h
  rw [decodeEntities_eq_self hdropped]
  intro hsublist
  exact not_sublist_dropTagsFrom false (breakLines cs)
    (hsublist.trans ((shortenRunsFrom_sublist 0 _).trans (Text.trimChars_sublist _)))

/-! ## Pages as they are shown -/

/-- What is shown is on the page, or stands there for the end of a line or for an entity. -/
theorem mem_render {page : String} {c : Char} (h : c ∈ (render page).toList) :
    c ∈ "</p>\n".toList ∨ c ∈ entities.map Prod.snd ∨ c ∈ page.toList := by
  rw [render, String.toList_ofList] at h
  have hdecoded := (Text.trimChars_sublist _).subset ((shortenRunsFrom_sublist 0 _).subset h)
  rcases mem_decodeEntities hdecoded with hcode | hdropped
  · exact .inr (.inl hcode)
  · exact (mem_breakLines ((dropTagsFrom_sublist false _).subset hdropped)).imp_right .inr

/-- **The form of what is shown.** A page, however it is written, is shown without blanks at its
ends and with at most two newlines in a row. If it has no `&`, no `<` is shown that a `>` follows,
so no tag is left of it, and a page without `&` that has this form already is shown as it is. -/
theorem render_form (page : String) :
    IsTidy (render page).toList ∧
      ('&' ∉ page.toList → ¬['<', '>'].Sublist (render page).toList ∧
        (render page = page ↔ IsTidy page.toList ∧ ¬['<', '>'].Sublist page.toList)) := by
  have htidy : IsTidy (render page).toList := by
    rw [render, String.toList_ofList]
    exact isTidy_shown _
  refine ⟨htidy, fun hamp => ?_⟩
  have htag : ¬['<', '>'].Sublist (render page).toList := by
    rw [render, String.toList_ofList]
    exact not_sublist_shown hamp
  refine ⟨htag, ?_, ?_⟩
  · intro hsame
    rw [hsame] at htidy htag
    exact ⟨htidy, htag⟩
  · rintro ⟨hform, hfree⟩
    rw [render, breakLines_eq_self hfree, dropTags_eq_self hfree, decodeEntities_eq_self hamp,
      shown_eq_self hform, String.ofList_toList]

/-- A page with tags that are not closed, stand in each other or have the end of a line in them. -/
theorem render_form_broken :
    '&' ∉ " 1 > 0 <a <b>x</b</p>y<i<br>>\n\n\n<z <".toList ∧
      render " 1 > 0 <a <b>x</b</p>y<i<br>>\n\n\n<z <" = "1 > 0 x\ny\n\n<z <" ∧
      ¬['<', '>'].Sublist (render " 1 > 0 <a <b>x</b</p>y<i<br>>\n\n\n<z <").toList :=
  ⟨by decide, by decide, ((render_form _).2 (by decide)).1⟩

end ShellPages.Page
