import ShellPages.Proofs.Page.NormalForm

/-!
# Text written as a page

Text becomes a page when its special characters are written as entities (`escape`). Rendering reads
the text back from that page (`render_escape`): no tag is on it (`not_mem_escaped`), and the single
pass in which entities are decoded takes each of them for the character it was written for and never
looks at what it has decoded, so text that looks like an entity or like a tag stays
(`decodeOnce_escaped`). What remains is how any text is shown, and text that has been shown once
is shown as it is.
-/

namespace ShellPages.Page

/-- How a character is written on a page. -/
def escapeChar : Char → List Char
  | '&' => "&amp;".toList
  | '<' => "&lt;".toList
  | '>' => "&gt;".toList
  | '"' => "&quot;".toList
  | '\'' => "&#39;".toList
  | c => [c]

/-- The page on which a text is written. -/
def escape (text : String) : String :=
  String.ofList (text.toList.flatMap escapeChar)

/-- A character is written as one of its entities, or it is no `&` and no `<` and stays. -/
theorem escapeChar_cases (c : Char) :
    (∃ entity, (entity, c) ∈ entities ∧ escapeChar c = entity.toList) ∨
      c ≠ '&' ∧ c ≠ '<' ∧ escapeChar c = [c] := by
  unfold escapeChar
  split
  · exact .inl ⟨_, by decide, rfl⟩
  · exact .inl ⟨_, by decide, rfl⟩
  · exact .inl ⟨_, by decide, rfl⟩
  · exact .inl ⟨_, by decide, rfl⟩
  · exact .inl ⟨_, by decide, rfl⟩
  · next hamp hless _ _ _ => exact .inr ⟨hamp, hless, rfl⟩

theorem codeAt?_entity {code : String × Char} (h : code ∈ entities) (rest : List Char) :
    Text.codeAt? entities (code.1.toList ++ rest) = some code := by
  simp only [entities, List.mem_cons, List.not_mem_nil, or_false] at h
  rcases h with rfl | rfl | rfl | rfl | rfl | rfl <;> rfl

/-- A written character is decoded, and what follows is read on its own. -/
theorem decodeOnce_escapeChar (c : Char) (rest : List Char) :
    Text.decodeOnce entities (escapeChar c ++ rest) = c :: Text.decodeOnce entities rest := by
  rcases escapeChar_cases c with ⟨entity, hentity, hc⟩ | ⟨hamp, -, hc⟩
  · have hne : entity.toList ≠ [] := areIndependent_entities.ne_nil hentity
    rw [hc]
    exact Text.decodeOnce_append hne (codeAt?_entity hentity rest)
  · rw [hc, List.singleton_append,
      Text.decodeOnce_cons_of_none (Text.codeAt?_eq_none areIndependent_entities hamp rest)]

/-- **Decoding reads back what was written.** -/
theorem decodeOnce_escaped (cs : List Char) :
    Text.decodeOnce entities (cs.flatMap escapeChar) = cs := by
  induction cs with
  | nil => simp [Text.decodeOnce]
  | cons c cs ih => rw [List.flatMap_cons, decodeOnce_escapeChar, ih]

/-- No tag starts on the page of a text. -/
theorem not_mem_escaped (cs : List Char) : '<' ∉ cs.flatMap escapeChar := by
  intro hmem
  obtain ⟨c, -, hc⟩ := List.mem_flatMap.1 hmem
  rcases escapeChar_cases c with ⟨entity, hentity, hwritten⟩ | ⟨-, hless, hwritten⟩
  · have hfree : ∀ code ∈ entities, '<' ∉ code.1.toList := by decide
    rw [hwritten] at hc
    exact hfree _ hentity hc
  · rw [hwritten, List.mem_singleton] at hc
    exact hless hc.symm

/-- A page without tags loses nothing with them. -/
theorem dropTags_breakLines_eq_self {cs : List Char} (h : '<' ∉ cs) :
    dropTags (breakLines cs) = cs := by
  have hpiece := dropTags_breakLines [Piece.text cs h]
  rwa [List.flatMap_singleton, List.flatMap_singleton] at hpiece

/-- The page of a text is shown as the text is. -/
theorem render_escape_eq (text : String) :
    render (escape text) = String.ofList (shortenRuns (Text.trim text).toList) := by
  rw [render, escape, String.toList_ofList, dropTags_breakLines_eq_self (not_mem_escaped _),
    decodeEntities_eq, decodeOnce_escaped, Text.trim, String.toList_ofList]

/-- **Text is read back from its page.** Of a text that is written as a page, all is shown but the
blanks at its ends and what is more than two newlines in a row. A page is therefore shown as the
page on which its own text is written. -/
theorem render_escape :
    (∀ text, render (escape text) =
      String.ofList (((Text.trim text).toList.splitBy (· == ·)).flatMap shortened)) ∧
    ∀ page, render (escape (render page)) = render page := by
  refine ⟨fun text => ?_, fun page => ?_⟩
  · rw [render_escape_eq, shortenRuns_eq]
  · rw [render_escape_eq, Text.trim, String.toList_ofList, render, String.toList_ofList,
      shown_eq_self (isTidy_shown _)]

/-- Text that looks like a tag, or like an entity of an entity. -/
example : render (escape " <br> '&amp;lt;' ") = "<br> '&amp;lt;'" := by decide

end ShellPages.Page
