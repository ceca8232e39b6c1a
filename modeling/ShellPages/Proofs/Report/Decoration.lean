import ShellPages.Proofs.Page.NormalForm
import ShellPages.Report.Pretty

/-!
# Styles are decoration only

A text decorates another one if dropping its codes leaves the other, whatever follows
(`Decorates`). What a painter shows of a text without codes decorates it
(`Painter.IsColored.decorates`), and texts that decorate others may be put together like these. So
a report in styles decorates the report without (`Painter.codes_dropped`).
-/

namespace ShellPages

open Style (escape)

/-! ## Codes -/

/-- Drop codes, inside or outside one. A code starts at the escape character, if a bracket comes
next, and ends at the next `m`; where no `m` follows, none starts. -/
def dropCodesFrom (inside : Bool) : List Char → List Char
  | [] => []
  | c :: rest =>
    if inside then dropCodesFrom (c != 'm') rest
    else if c == escape && rest.head? == some '[' && rest.contains 'm' then dropCodesFrom true rest
    else c :: dropCodesFrom false rest

/-- A text without its codes. -/
def dropCodes (text : String) : String :=
  String.ofList (dropCodesFrom false text.toList)

/-- A text in which no code starts. -/
def IsCodeless (text : String) : Prop :=
  escape ∉ text.toList

instance (text : String) : Decidable (IsCodeless text) :=
  inferInstanceAs (Decidable (escape ∉ text.toList))

theorem dropCodesFrom_append {cs : List Char} (h : escape ∉ cs) (rest : List Char) :
    dropCodesFrom false (cs ++ rest) = cs ++ dropCodesFrom false rest := by
  induction cs with
  | nil => rfl
  | cons c cs ih =>
    rw [List.mem_cons, not_or] at h
    simp [dropCodesFrom, Ne.symm h.1, ih h.2]

/-- Within a code, everything up to the end of it is dropped. -/
theorem dropCodesFrom_inside {cs : List Char} (h : 'm' ∉ cs) (rest : List Char) :
    dropCodesFrom true (cs ++ 'm' :: rest) = dropCodesFrom false rest := by
  induction cs with
  | nil => rfl
  | cons c cs ih =>
    rw [List.mem_cons, not_or] at h
    have hc : (c != 'm') = true := bne_iff_ne.2 (Ne.symm h.1)
    rw [List.cons_append, dropCodesFrom, if_pos rfl, hc, ih h.2]

theorem dropCodesFrom_code {numbers : List Char} (h : 'm' ∉ numbers) (rest : List Char) :
    dropCodesFrom false (escape :: '[' :: numbers ++ 'm' :: rest) = dropCodesFrom false rest := by
  have hinside : 'm' ∉ '[' :: numbers := by simp [h]
  rw [List.cons_append, List.cons_append, dropCodesFrom, ← List.cons_append,
    ← dropCodesFrom_inside hinside rest]
  simp

theorem dropCodesFrom_opening (s : Style) (rest : List Char) :
    dropCodesFrom false (s.opening ++ rest) = dropCodesFrom false rest := by
  have hnumbers : 'm' ∉ s.numbers.toList := by cases s <;> decide
  rw [← dropCodesFrom_code hnumbers rest, Style.opening]
  simp

theorem dropCodesFrom_closing (rest : List Char) :
    dropCodesFrom false (Style.closing ++ rest) = dropCodesFrom false rest := by
  have hnumbers : 'm' ∉ ['0'] := by decide
  exact dropCodesFrom_code hnumbers rest

/-! ## Texts without codes -/

theorem isCodeless_append {text other : String} :
    IsCodeless (text ++ other) ↔ IsCodeless text ∧ IsCodeless other := by
  simp [IsCodeless]

theorem isCodeless_toString (n : Nat) : IsCodeless (toString n) := by
  intro hmem
  rw [Nat.toString_eq_repr, Nat.toList_repr] at hmem
  exact absurd (Nat.isDigit_of_mem_toDigits (by decide) (by decide) hmem) (by decide)

theorem isCodeless_pushn {text : String} {c : Char} (h : IsCodeless text) (hc : escape ≠ c)
    (n : Nat) : IsCodeless (text.pushn c n) := by
  rw [String.pushn_eq_repeat_push]
  induction n with
  | zero => exact h
  | succ n ih =>
    rw [Nat.repeat, IsCodeless, String.toList_push, List.mem_append, not_or, List.mem_singleton]
    exact ⟨ih, hc⟩

theorem Inspection.isCodeless_id (i : Inspection) : IsCodeless i.id := by
  cases i <;> decide +kernel

theorem Inspection.isCodeless_description (i : Inspection) : IsCodeless i.description := by
  cases i <;> decide +kernel

/-- A page without codes is shown without codes. -/
theorem isCodeless_render {page : String} (h : IsCodeless page) :
    IsCodeless (Page.render page) := by
  intro hmem
  rcases Page.mem_render hmem with hnew | hentity | hpage
  · exact absurd hnew (by decide)
  · exact absurd hentity (by decide)
  · exact h hpage

/-! ## Decorated texts -/

/-- A text that is another one with codes in it, whatever follows them. -/
def Decorates (shown plain : String) : Prop :=
  ∀ rest, dropCodesFrom false (shown.toList ++ rest) = plain.toList ++ dropCodesFrom false rest

namespace Decorates

variable {shown plain shown' plain' : String}

theorem dropCodes_eq (h : Decorates shown plain) : dropCodes shown = plain := by
  have hall := h []
  rw [List.append_nil] at hall
  rw [dropCodes, hall, dropCodesFrom, List.append_nil, String.ofList_toList]

/-- A text without codes decorates itself. -/
theorem of_isCodeless {text : String} (h : IsCodeless text) : Decorates text text :=
  dropCodesFrom_append h

theorem append (h : Decorates shown plain) (h' : Decorates shown' plain') :
    Decorates (shown ++ shown') (plain ++ plain') := by
  intro rest
  rw [String.toList_append, List.append_assoc, h, h', String.toList_append, List.append_assoc]

theorem line (h : Decorates shown plain) : Decorates (line shown) (line plain) :=
  h.append (of_isCodeless (by decide))

variable {α : Type} {items : List α} {f g : α → String}

theorem join (h : ∀ x ∈ items, Decorates (f x) (g x)) :
    Decorates (String.join (items.map f)) (String.join (items.map g)) := by
  induction items with
  | nil =>
    have hempty : IsCodeless "" := by decide
    exact of_isCodeless hempty
  | cons x items ih =>
    rw [List.forall_mem_cons] at h
    rw [List.map_cons, List.map_cons, String.join_cons, String.join_cons]
    exact h.1.append (ih h.2)

theorem intercalate {between : String} (hb : IsCodeless between)
    (h : ∀ x ∈ items, Decorates (f x) (g x)) :
    Decorates (between.intercalate (items.map f)) (between.intercalate (items.map g)) := by
  induction items with
  | nil =>
    have hempty : IsCodeless "" := by decide
    exact of_isCodeless hempty
  | cons x items ih =>
    rw [List.forall_mem_cons] at h
    cases items with
    | nil => simpa using h.1
    | cons y items =>
      simp only [List.map_cons, String.intercalate_cons_cons]
      exact (h.1.append (of_isCodeless hb)).append (ih h.2)

end Decorates

/-! ## Painters -/

/-- A text between the code that switches a style on and the one that switches styles off. -/
def Style.wrap (s : Style) (text : String) : String :=
  String.ofList (s.opening ++ text.toList ++ Style.closing)

/-- A painter with styles on: it puts a text without codes between those of the style. An empty
text may also be left alone. -/
structure Painter.IsColored (paint : Painter) : Prop where
  wraps : ∀ (s : Style) (text : String), text ≠ "" → IsCodeless text → paint s text = s.wrap text
  empty : ∀ s : Style, paint s "" = "" ∨ paint s "" = s.wrap ""

theorem Style.paint_true {text : String} (h : IsCodeless text) (s : Style) :
    Style.paint true s text = s.wrap text := by
  have hclosing : ¬Style.closing.Sublist text.toList := fun hsub => h (hsub.subset (by decide))
  rw [Style.paint, if_pos rfl, Text.substitute_eq_self hclosing, Style.wrap]

theorem Style.isColored_paint : Painter.IsColored (Style.paint true) where
  wraps s _ _ htext := Style.paint_true htext s
  empty s := .inr (Style.paint_true (by decide) s)

theorem Style.decorates_wrap (s : Style) {text : String} (h : IsCodeless text) :
    Decorates (s.wrap text) text := by
  intro rest
  rw [Style.wrap, String.toList_ofList, List.append_assoc, List.append_assoc,
    dropCodesFrom_opening, dropCodesFrom_append h, dropCodesFrom_closing]

/-- What is shown of a text decorates it. -/
theorem Painter.IsColored.decorates {paint : Painter} (h : paint.IsColored) (s : Style)
    {text : String} (htext : IsCodeless text) :
    Decorates (paint s text) (Style.paint false s text) := by
  have hplain : Style.paint false s text = text := rfl
  rw [hplain]
  by_cases hne : text = ""
  · subst hne
    rcases h.empty s with hempty | hempty
    · rw [hempty]
      exact .of_isCodeless htext
    · rw [hempty]
      exact s.decorates_wrap htext
  · rw [h.wraps s text hne htext]
    exact s.decorates_wrap htext

/-! ## Reports -/

/-- A resolution without codes in its texts. -/
structure Resolution.IsCodeless (r : Resolution) : Prop where
  name : ShellPages.IsCodeless r.name
  source : ∀ source ∈ r.source, ShellPages.IsCodeless source
  documentation : ∀ page ∈ r.documentation, ShellPages.IsCodeless page

/-- A listing without codes in its texts. -/
structure Listing.IsCodeless (l : Listing) : Prop where
  source : ShellPages.IsCodeless l.source
  base : ShellPages.IsCodeless l.base
  keys : ∀ key ∈ l.keys, ShellPages.IsCodeless key

section Reports

variable {paint : Painter} (hpaint : paint.IsColored)

include hpaint

theorem decorates_found {name origin page : String} (hname : IsCodeless name)
    (horigin : IsCodeless origin) (hpage : IsCodeless page) :
    Decorates
      (line (paint .boldCyan name ++ paint .dimmed origin) ++ line (paint .dimmed rule) ++
        line (Page.render page))
      (line (Style.paint false .boldCyan name ++ Style.paint false .dimmed origin) ++
        line (Style.paint false .dimmed rule) ++ line (Page.render page)) := by
  have hhead := (hpaint.decorates .boldCyan hname).append (hpaint.decorates .dimmed horigin)
  have hrule : IsCodeless rule := isCodeless_pushn (by decide) (by decide) 40
  exact (hhead.line.append (hpaint.decorates .dimmed hrule).line).append
    (Decorates.of_isCodeless (isCodeless_render hpage)).line

theorem Resolution.decorates_pretty {r : Resolution} (h : r.IsCodeless) :
    Decorates (r.pretty paint) (r.pretty (Style.paint false)) := by
  obtain ⟨name, kind, source, documentation⟩ := r
  cases documentation with
  | none =>
    have hkind : ShellPages.IsCodeless s!"no documentation for {kind.name}" := by
      cases kind <;> decide
    exact (((hpaint.decorates .boldYellow h.name).append (.of_isCodeless (by decide))).append
      (hpaint.decorates .dimmed hkind)).line
  | some page =>
    have hpage := h.documentation page rfl
    cases source with
    | none =>
      have horigin : ShellPages.IsCodeless "" := by decide
      exact decorates_found hpaint h.name horigin hpage
    | some source =>
      have horigin : ShellPages.IsCodeless s!" ({source})" :=
        isCodeless_append.2 ⟨isCodeless_append.2 ⟨by decide, h.source source rfl⟩, by decide⟩
      exact decorates_found hpaint h.name horigin hpage

theorem Listing.decorates_pretty {l : Listing} (h : l.IsCodeless) :
    Decorates (l.pretty paint) (l.pretty (Style.paint false)) := by
  have hcount : ShellPages.IsCodeless s!"{l.base} ({l.keys.length} pages)" :=
    isCodeless_append.2 ⟨isCodeless_append.2 ⟨isCodeless_append.2 ⟨h.base, by decide⟩,
      isCodeless_toString l.keys.length⟩, by decide⟩
  have hkeys : Decorates
      (if l.keys.isEmpty then paint .dimmed "(none)" else " ".intercalate l.keys)
      (if l.keys.isEmpty then Style.paint false .dimmed "(none)" else " ".intercalate l.keys) := by
    split
    · exact hpaint.decorates .dimmed (by decide)
    · have hbetween : ShellPages.IsCodeless " " := by decide
      have hall := Decorates.intercalate hbetween fun key hkey =>
        Decorates.of_isCodeless (h.keys key hkey)
      simpa using hall
  rw [pretty, pretty]
  refine .append (.line (.append (.append (hpaint.decorates .boldCyan h.source) ?_)
    (hpaint.decorates .dimmed hcount))) (.line (.append ?_ hkeys)) <;>
    exact .of_isCodeless (by decide)

theorem decorates_inspections {context : String} (h : IsCodeless context)
    (inspections : List Inspection) :
    Decorates (inspectionsPaintedBy paint context inspections)
      (inspectionsPaintedBy (Style.paint false) context inspections) := by
  have hcount : IsCodeless s!"({context}, {inspections.length} enabled)" :=
    isCodeless_append.2 ⟨isCodeless_append.2 ⟨isCodeless_append.2
      ⟨isCodeless_append.2 ⟨by decide, h⟩, by decide⟩,
      isCodeless_toString inspections.length⟩, by decide⟩
  rw [inspectionsPaintedBy, inspectionsPaintedBy]
  refine .append (.append (.line (.append (.append (hpaint.decorates .bold (by decide)) ?_)
    (hpaint.decorates .dimmed hcount))) ?_) (Decorates.join fun i _ => ?_)
  · exact .of_isCodeless (by decide)
  · exact .of_isCodeless (by decide)
  · refine .line (.append (.append (.append ?_ (hpaint.decorates .green ?_)) ?_)
      (.of_isCodeless i.isCodeless_description))
    · exact .of_isCodeless (by decide)
    · exact isCodeless_pushn i.isCodeless_id (by decide) _
    · exact .of_isCodeless (by decide)

end Reports

/-- **Styles are decoration only.** A report by a painter with styles on, of texts without codes,
is the report without styles as soon as the codes in it are dropped, and so is a report with styles
on as it is printed. -/
theorem Painter.codes_dropped :
    Painter.IsColored (Style.paint true) ∧
    ∀ paint : Painter, paint.IsColored →
      (∀ results : List Resolution, (∀ r ∈ results, r.IsCodeless) →
        dropCodes (docPaintedBy paint results) = docPretty false results) ∧
      (∀ listings : List Listing, (∀ l ∈ listings, l.IsCodeless) →
        dropCodes (listingsPaintedBy paint listings) = listingsPretty false listings) ∧
      ∀ (context : String) (inspections : List Inspection), IsCodeless context →
        dropCodes (inspectionsPaintedBy paint context inspections) =
          inspectionsPretty false context inspections := by
  refine ⟨Style.isColored_paint, fun paint hpaint => ⟨fun results h => ?_, fun listings h => ?_,
    fun context inspections h => ?_⟩⟩
  · exact (Decorates.intercalate (by decide) fun r hr =>
      Resolution.decorates_pretty hpaint (h r hr)).dropCodes_eq
  · exact (Decorates.join fun l hl => Listing.decorates_pretty hpaint (h l hl)).dropCodes_eq
  · exact (decorates_inspections hpaint h inspections).dropCodes_eq

/-- A name without source and without text with a page that is shown in full, a listing without
keys, and inspections, of which the page and the context have the rest of a code. -/
theorem Painter.codes_dropped_emptyTexts :
    let found : Resolution := ⟨"", .command, none, some "<p>m</p>[0m"⟩
    let listing : Listing := ⟨"", "m", []⟩
    Painter.IsColored (Style.paint true) ∧ found.IsCodeless ∧ listing.IsCodeless ∧
      IsCodeless "[1m" ∧
      docPretty true [found] ≠ docPretty false [found] ∧
      dropCodes (docPretty true [found]) = docPretty false [found] ∧
      dropCodes (listingsPretty true [listing]) = listingsPretty false [listing] ∧
      dropCodes (inspectionsPretty true "[1m" Inspection.all) =
        inspectionsPretty false "[1m" Inspection.all := by
  intro found listing
  have hfound : found.IsCodeless := ⟨by decide, by simp [found], by simp [found]; decide⟩
  have hlisting : listing.IsCodeless := ⟨by decide, by decide, by simp [listing]⟩
  have hcontext : IsCodeless "[1m" := by decide
  obtain ⟨hcolored, hall⟩ := codes_dropped
  obtain ⟨hdoc, hlistings, hinspections⟩ := hall _ hcolored
  exact ⟨hcolored, hfound, hlisting, hcontext, by decide +kernel,
    hdoc [found] (by simpa using hfound), hlistings [listing] (by simpa using hlisting),
    hinspections _ _ hcontext⟩

end ShellPages
