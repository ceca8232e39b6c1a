import ShellPages.Event
import ShellPages.Expression.Parse
import ShellPages.Text.Edit
import ShellPages.Text.Letter

/-!
# Log filters

A filter decides which lines of the log are shown. It is a list of rules with commas between them.
Of the rules for a line the most specific one counts; a line without rule is not shown.

A rule says how much is shown of some lines: everything that is at least as serious as a level, or
nothing. Written in full it is the beginning of the target of the lines, a span and fields in
brackets, and a level after an equals sign: `pages[span{name}]=debug`. Every part may be missing,
and a level may stand alone. Without a level all of the lines are shown.

A field may be given a value: a number or a regular expression. What it matches does not matter, but
a rule with a text that is neither cannot be read. A rule with a span, or with the value of a field,
is for the lines within such spans. No line is within a span, so that it shows nothing.
-/

namespace ShellPages

/-! ## Verbosity -/

/-- How much is shown. -/
inductive Verbosity where
  | off
  | error
  | warn
  | info
  | debug
  | trace
  deriving DecidableEq, Repr

namespace Verbosity

/-- From least to most. -/
def all : List Verbosity := [off, error, warn, info, debug, trace]

/-- The name of a verbosity. -/
def name : Verbosity → String
  | off => "off"
  | error => "error"
  | warn => "warn"
  | info => "info"
  | debug => "debug"
  | trace => "trace"

/-- How much is shown, as a number. -/
def rank (v : Verbosity) : Nat :=
  all.idxOf v

/-- A verbosity by its number, which may have a plus sign and zeros before it. -/
def ofNumber? (text : List Char) : Option Verbosity :=
  let digits :=
    match text with
    | '+' :: rest => rest
    | text => text
  if digits.isEmpty || !digits.all Char.isDigit then none
  else all[(digits.foldl (fun n c => n * 10 + (c.toNat - '0'.toNat)) 0)]?

/-- A verbosity by its name, without regard to case, or by its number. -/
def parse? (text : String) : Option Verbosity :=
  (all.find? fun v => v.name == String.ofList (text.toList.map Char.toLower)) <|>
    ofNumber? text.toList

/-- Whether lines of a level are shown. -/
def shows (v : Verbosity) : Level → Bool
  | .debug => debug.rank ≤ v.rank
  | .warn => warn.rank ≤ v.rank

end Verbosity

/-! ## Values in rules -/

namespace LogRule

/-- Whether a text is the exponent of a number, or nothing. -/
def isExponent : List Char → Bool
  | [] => true
  | c :: rest =>
    let digits :=
      match rest with
      | '+' :: rest | '-' :: rest => rest
      | rest => rest
    c.toLower == 'e' && !digits.isEmpty && digits.all Char.isDigit

/-- Whether a text is a number without sign. -/
def isNumber (cs : List Char) : Bool :=
  let whole := cs.takeWhile Char.isDigit
  let (fraction, rest) :=
    match cs.dropWhile Char.isDigit with
    | '.' :: rest => (rest.takeWhile Char.isDigit, rest.dropWhile Char.isDigit)
    | rest => ([], rest)
  ["inf", "infinity", "nan"].contains (String.ofList (cs.map Char.toLower)) ||
    (!(whole.isEmpty && fraction.isEmpty) && isExponent rest)

/-- Whether a text is a value. Numbers without a plus sign are expressions anyway. -/
def isValue (cs : List Char) : Bool :=
  match cs with
  | '+' :: rest => isNumber rest
  | cs => (Expression.parse? cs).any Expression.isUsable

end LogRule

/-! ## Rules -/

/-- A field in a rule. -/
structure LogField where
  name : String
  /-- Whether its value is asked for. -/
  hasValue : Bool
  deriving DecidableEq, Repr

/-- A rule of a filter. -/
structure LogRule where
  /-- The beginning of the targets that it is for; absent if it is for all. -/
  target : Option String := none
  /-- The name of the span that it is for. -/
  span : Option String := none
  /-- The fields that a line has to have. -/
  fields : List LogField := []
  verbosity : Verbosity := .trace
  deriving DecidableEq, Repr

namespace LogRule

/-! ## Reading rules -/

/-- What the next character of a rule belongs to, and where that begins. -/
inductive Part where
  | start
  /-- A target, or a level alone. -/
  | target (first : Nat)
  | span (first : Nat)
  | field (first : Nat)
  | fieldsEnd
  | bracketsEnd
  | level (first : Nat)

/-- A rule of which a part has been read. -/
structure Draft where
  rule : LogRule := {}
  part : Part := .start

/-- A part of a text, from one of its bytes up to another; none if a character is cut. -/
def slice? (text : ByteArray) (first stop : Nat) : Option String :=
  String.fromUTF8? (text.extract first stop)

/-- Whether a target, or a level, may begin with a character. -/
def beginsTarget (c : Char) : Bool :=
  c == '-' || c == ':' || c == '_' || Text.isAlphanumeric c

/-- A field, perhaps with a value after an equals sign. What comes after another equals sign does
not count. -/
def field? (text : String) : Option LogField :=
  match text.toList.splitOn '=' with
  | [] | [[]] => none
  | [name] => some ⟨String.ofList name, false⟩
  | name :: value :: _ =>
    if isValue value then some ⟨String.ofList name, true⟩ else none

/-- The level after an equals sign. -/
def level? (text : String) : Option Verbosity :=
  if text.isEmpty then some .trace else Verbosity.parse? text

namespace Draft

/-- Read one character, which begins at the given byte. -/
def read? (text : ByteArray) (d : Draft) (place : Nat) (c : Char) : Option Draft :=
  match d.part with
  | .start =>
    if c == '[' then some { d with part := .span (place + 1) }
    else if beginsTarget c then some { d with part := .target place }
    else none
  | .target first =>
    if c == '=' || c == '[' then do
      let target ← slice? text first place
      let part := if c == '=' then Part.level (place + 1) else .span (place + 1)
      some { d with rule.target := some target, part }
    else some d
  | .span first =>
    if c == ']' then do
      some { d with rule.span := some (← slice? text first place), part := .bracketsEnd }
    else if c == '\x7b' then do
      let span ← slice? text first place
      let span := if span.isEmpty then none else some span
      some { d with rule.span := span, part := .field (place + 1) }
    else some d
  | .field first =>
    if c == '\x7d' then do
      let field ← field? (← slice? text first place)
      some { d with rule.fields := d.rule.fields ++ [field], part := .fieldsEnd }
    else some d
  | .fieldsEnd => if c == ']' then some { d with part := .bracketsEnd } else none
  | .bracketsEnd => if c == '=' then some { d with part := .level (place + 1) } else none
  | .level _ => some d

/-- Read characters, of which the first begins at the given byte. -/
def readAll? (text : ByteArray) (d : Draft) (place : Nat) : List Char → Option Draft
  | [] => some d
  | c :: rest => do readAll? text (← d.read? text place c) (place + c.utf8Size) rest

/-- Read the end of a rule. -/
def finish? (text : ByteArray) (d : Draft) : Option LogRule :=
  match d.part with
  | .target first => do
    let target ← slice? text first text.size
    match Verbosity.parse? target with
    | some verbosity => some { d.rule with verbosity }
    | none => some { d.rule with target := some target }
  | .level first => do
    some { d.rule with verbosity := ← level? (← slice? text first text.size) }
  | .bracketsEnd => some d.rule
  | _ => none

end Draft

/-- Read a rule. Blanks around it are passed over, but places are counted from the first
character after them, so that each part is cut out as much too early as there are blanks before
it, and the last part ends with the text. -/
def parse? (text : String) : Option LogRule := do
  let bytes := text.toUTF8
  (← Draft.readAll? bytes {} 0 (Text.trimChars text.toList)).finish? bytes

/-! ## Choosing rules -/

/-- Whether a rule is for lines outside of spans. -/
def isForLines (r : LogRule) : Bool :=
  r.span.isNone && r.fields.all fun field => !field.hasValue

/-- Whether a rule is for a line. The message is a field of every line. -/
def covers (r : LogRule) (l : LogLine) : Bool :=
  let names := "message" :: l.fields.map Prod.fst
  r.isForLines && (r.target.all fun beginning => beginning.toList.isPrefixOf l.target.toList) &&
    r.fields.all fun field => names.contains field.name

/-- How specific the target of a rule is. -/
def weight (r : LogRule) : Nat :=
  (r.target.map fun t => t.utf8ByteSize + 1).getD 0

/-- Whether another rule for the same line counts before this one: it has a longer target, or more
fields, or fields whose names come later. Of two rules for the same lines the later counts. -/
def yieldsTo (r later : LogRule) : Bool :=
  let names (r : LogRule) := r.fields.map LogField.name
  if r.weight != later.weight then r.weight < later.weight
  else if r.fields.length != later.fields.length then r.fields.length < later.fields.length
  else !(names later).lex (names r)

end LogRule

/-! ## Filters -/

/-- The rules of a filter. -/
abbrev LogFilter := List LogRule

namespace LogFilter

/-- Read a filter. One without rules shows errors only. -/
def parse? (text : String) : Option LogFilter := do
  let parts := (text.toList.splitOn ',').filter fun part => !part.isEmpty
  let rules ← parts.mapM fun part => LogRule.parse? (String.ofList part)
  some (if rules.isEmpty then [{ verbosity := .error }] else rules)

/-- The rule that counts for a line. -/
def ruleFor? (f : LogFilter) (l : LogLine) : Option LogRule :=
  match f.filter fun r => r.covers l with
  | [] => none
  | first :: rest => some (rest.foldl (fun r later => if r.yieldsTo later then later else r) first)

/-- Whether a line is shown. -/
def shows (f : LogFilter) (l : LogLine) : Bool :=
  match f.ruleFor? l with
  | some r => r.verbosity.shows l.level
  | none => false

/-- The variable that names a filter. -/
def variableName : String := "SHELLDOC_LOG"

/-- The filter where none is named, or one that cannot be read. -/
def standard (verbose : Bool) : LogFilter :=
  if verbose then [{ target := some "shelldoc", verbosity := .debug }] else [{ verbosity := .warn }]

/-- The filter of a run: the one that is named, if it can be read. -/
def ofVariable (named : Option String) (verbose : Bool) : LogFilter :=
  (named.bind parse?).getD (standard verbose)

end LogFilter

end ShellPages
