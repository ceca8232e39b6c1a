import ShellPages.Report
import ShellPages.Text.Edit

/-!
# Reports for people

The forms of reports for a terminal: pages as plain text below the names they document, and lists
of inspections and of pages. A painter shows their parts in styles.

A page is written with tags and entities. `render` turns it into plain text: line breaks and ends of
paragraphs become newlines, all other tags are dropped, a few entities are decoded, blanks at both
ends are removed and runs of newlines are shortened to two. This is for display and no general
reading of the markup.

Terminals show text in styles that are switched on by a code and off by another. With styles on, a
text is put between the two codes of its style; where the text itself holds the code that switches
styles off, the style is switched on again. With styles off, a text stays as it is.
-/

namespace ShellPages

/-! ## Pages as plain text -/

namespace Page

/-- Turn the tags that end a line into newlines; the end of a paragraph stays before its one. -/
def breakLines (cs : List Char) : List Char :=
  let cs := Text.substitute "<br>".toList ['\n'] cs
  let cs := Text.substitute "<br/>".toList ['\n'] cs
  Text.substitute "</p>".toList "</p>\n".toList cs

/-- Drop tags, inside or outside one. A tag starts at `<` and ends at the next `>`; a `<` that no
`>` follows starts no tag. -/
def dropTagsFrom (inside : Bool) : List Char → List Char
  | [] => []
  | c :: rest =>
    if inside then dropTagsFrom (c != '>') rest
    else if c == '<' && rest.contains '>' then dropTagsFrom true rest
    else c :: dropTagsFrom false rest

/-- Drop every tag. -/
def dropTags (cs : List Char) : List Char :=
  dropTagsFrom false cs

/-- The entities that are decoded, in the order in which they are. The ampersand comes last, so
that what it completes is not decoded again. -/
def entities : List (String × Char) :=
  [("&lt;", '<'), ("&gt;", '>'), ("&quot;", '"'), ("&#39;", '\''), ("&nbsp;", ' '), ("&amp;", '&')]

/-- Decode entities, one after the other through the whole text. -/
def decodeEntities (cs : List Char) : List Char :=
  entities.foldl (fun cs (entity, c) => Text.substitute entity.toList [c] cs) cs

/-- Shorten runs of newlines to two, after a run of the given length. -/
def shortenRunsFrom (run : Nat) : List Char → List Char
  | [] => []
  | c :: rest =>
    if c == '\n' then
      if run < 2 then c :: shortenRunsFrom (run + 1) rest else shortenRunsFrom run rest
    else c :: shortenRunsFrom 0 rest

/-- Shorten runs of newlines to two. -/
def shortenRuns (cs : List Char) : List Char :=
  shortenRunsFrom 0 cs

/-- A page as plain text. -/
def render (page : String) : String :=
  String.ofList (shortenRuns (Text.trimChars (decodeEntities (dropTags (breakLines page.toList)))))

end Page

/-! ## Styled text -/

/-- How a text is shown. -/
inductive Style where
  | bold
  | dimmed
  | green
  | boldCyan
  | boldYellow
  deriving DecidableEq, Repr

/-- A way to show texts in styles. -/
abbrev Painter := Style → String → String

namespace Style

/-- The beginning of every code. -/
def escape : Char := '\x1b'

/-- The numbers of a style. -/
def numbers : Style → String
  | bold => "1"
  | dimmed => "2"
  | green => "32"
  | boldCyan => "1;36"
  | boldYellow => "1;33"

/-- The code that switches a style on. -/
def opening (s : Style) : List Char :=
  escape :: '[' :: s.numbers.toList ++ ['m']

/-- The code that switches styles off. -/
def closing : List Char :=
  [escape, '[', '0', 'm']

/-- A text in a style, if styles are on. -/
def paint (color : Bool) : Painter := fun s text =>
  if color then
    String.ofList (s.opening ++
      Text.substitute closing (closing ++ s.opening) text.toList ++ closing)
  else text

/-- Whether styles are on. A variable that is set means yes unless it is `0`. Styles can be forced
on and, for want of that, switched off; otherwise they are on where a terminal shows the output and
the user has not said no. -/
def wanted (terminal : Bool) (force never wish : Option String) : Bool :=
  if force.any (· != "0") then true
  else if never.isSome then false
  else wish.all (· != "0") && terminal

end Style

/-! ## Painted reports -/

/-- A line of text. -/
def line (text : String) : String :=
  text ++ "\n"

/-- The rule between a name and its page. -/
def rule : String :=
  "".pushn '─' 40

/-- What is said of one name. -/
def Resolution.pretty (paint : Painter) (r : Resolution) : String :=
  match r.documentation with
  | some page =>
    let origin := match r.source with
      | some source => s!" ({source})"
      | none => ""
    line (paint .boldCyan r.name ++ paint .dimmed origin) ++
      line (paint .dimmed rule) ++ line (Page.render page)
  | none =>
    line (paint .boldYellow r.name ++ " " ++
      paint .dimmed s!"no documentation for {r.kind.name}")

/-- A report on names by a painter, with an empty line between two names. -/
def docPaintedBy (paint : Painter) (results : List Resolution) : String :=
  (line "").intercalate (results.map (Resolution.pretty paint))

/-- A report on names. -/
def docPretty (color : Bool) (results : List Resolution) : String :=
  docPaintedBy (Style.paint color) results

/-- A text with blanks after it up to the given width. -/
def padded (width : Nat) (text : String) : String :=
  text.pushn ' ' (width - text.length)

/-- A report on inspections by a painter, with their ids in a column. -/
def inspectionsPaintedBy (paint : Painter) (context : String) (inspections : List Inspection) :
    String :=
  let width := (inspections.map fun i => i.id.length).foldl max 0
  line (paint .bold "Inspections" ++ " " ++
      paint .dimmed s!"({context}, {inspections.length} enabled)") ++
    line "" ++
    String.join (inspections.map fun i =>
      line ("  " ++ paint .green (padded width i.id) ++ "  " ++ i.description))

/-- A report on inspections. -/
def inspectionsPretty (color : Bool) (context : String) (inspections : List Inspection) : String :=
  inspectionsPaintedBy (Style.paint color) context inspections

/-- What is said of the pages of a source. -/
def Listing.pretty (paint : Painter) (l : Listing) : String :=
  line (paint .boldCyan l.source ++ " " ++ paint .dimmed s!"{l.base} ({l.keys.length} pages)") ++
    line ("  " ++ if l.keys.isEmpty then paint .dimmed "(none)" else " ".intercalate l.keys)

/-- A report on pages by a painter. -/
def listingsPaintedBy (paint : Painter) (listings : List Listing) : String :=
  String.join (listings.map (Listing.pretty paint))

/-- A report on pages. -/
def listingsPretty (color : Bool) (listings : List Listing) : String :=
  listingsPaintedBy (Style.paint color) listings

end ShellPages
