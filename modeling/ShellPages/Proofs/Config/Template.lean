import ShellPages.Config.Check
import ShellPages.Config.Reading

/-!
# What the starting point for a configuration says

Reading a configuration is reading the characters of its text, one after the other
(`Config.parse_eq_parseChars`), so that the starting point can be read line by line: it is the
configuration with the stock sources written out (`Config.parse_template`). The chain of sources is
the one of the empty configuration (`Config.chain_ofTemplate`), no inspection is switched off, and
there is no root.
-/

namespace ShellPages

namespace Yaml

/-- The tokens of characters. -/
def tokensOf (cs : List Char) : List Lexeme :=
  if cs.all isAllowed then
    let cells := cellsFrom {} cs
    Scanner.run (cells.1.length + 1) { rest := ⟨cells.1, cells.2⟩ }
  else []

theorem tokens_eq_tokensOf (text : String) : tokens text = tokensOf text.toList := by
  rw [tokens, tokensOf, Input.ofString?]
  by_cases hall : text.toList.all isAllowed
  · rw [if_pos hall, if_pos hall]
  · rw [if_neg hall, if_neg hall]

/-- The first document in tokens. -/
def Document.ofTokens (lexemes : List Lexeme) : Document :=
  let parsed := documentNode lexemes
  let root := numberNode [] parsed.node
  ⟨root.value, (anchoredInNode root.value).reverse, root.isWhole && endsText parsed.rest⟩

/-- Read a document as data of a shape. -/
def readDocument (shape : Data.Shape) (d : Document) : Except Fault Json := do
  let value ← (d.readAs shape "" d.root).run' d.aliasLimit
  if d.isAll then .ok value else .error .malformed

theorem read_eq_readDocument (shape : Data.Shape) (text : String) :
    read shape text = readDocument shape (.ofTokens (tokensOf text.toList)) := by
  rw [← tokens_eq_tokensOf]
  rfl

end Yaml

namespace Config

/-- Read a configuration from characters. -/
def parseChars (cs : List Char) : Except ConfigReadFault Config := do
  if cs.all Text.isBlank then .ok {}
  else
    let document := Yaml.Document.ofTokens (Yaml.tokensOf cs)
    ofData (← (Yaml.readDocument (Written.shape Config) document).mapError .text)

theorem parse_eq_parseChars (text : String) : parse text = parseChars text.toList := by
  rw [parse, Yaml.read_eq_readDocument]
  rfl

/-- What the starting point for a configuration says: the stock sources, with their bases. -/
def ofTemplate : Config where
  version := "1"
  docs := { sources := [⟨"builtin", .builtin, some "documentation/internal"⟩,
    ⟨"external", .external, some "documentation/external"⟩] }

/-- The starting point is read as what it says. -/
theorem parse_template : parse template = .ok ofTemplate := by
  have hread : (parse template).toOption = some ofTemplate := by
    -- the lines are taken apart one by one, since the text as a whole is long
    rw [parse_eq_parseChars, template, String.toList_join]
    decide +kernel
  cases hparse : parse template with
  | error fault =>
    rw [hparse] at hread
    cases hread
  | ok c =>
    rw [hparse] at hread
    cases hread
    rfl

/-- The sources that are written out are those that are asked for want of others. -/
theorem chain_ofTemplate : ofTemplate.chain = Chain.standard := rfl

theorem isValid_ofTemplate (isDirectory : String → Bool) : ofTemplate.IsValid isDirectory where
  root := by simp [ofTemplate]
  sources := by
    have hall : ∀ s ∈ ofTemplate.docs.sources, s.fault? = none := by decide
    exact fun s hs => SourceConfig.fault?_eq_none_iff.1 (hall s hs)
  disabled := by simp [ofTemplate]

theorem isValid_empty (isDirectory : String → Bool) : ({} : Config).IsValid isDirectory :=
  ⟨by simp, by simp, by simp⟩

end Config

end ShellPages
