import ShellPages.Command.Usage

/-!
# Command lines

A request says what a run is asked to do: to show documentation, to list inspections, or to make a
configuration to start from.

A command line is the name of a command and its arguments: options, with or without a value, and
words. An option has a long name after two hyphens and perhaps a letter after one; letters may be
joined. The value of an option is attached to it or is the next argument. After two hyphens alone,
all arguments are words. `Request.parse` reads a command line. The values of an option are looked at
when the next option or word begins, so that an option that is unknown is told before a value that
is unusable.
-/

namespace ShellPages

/-! ## Requests -/

/-- Show the documentation of names, or list the names that are documented. -/
structure DocRequest where
  names : List String := []
  kind : String := "command"
  /-- The name as it was written, if the names were resolved from it. -/
  asWritten : Option String := none
  /-- A directory of pages, instead of the one that is configured. -/
  docsDirectory : Option String := none
  config : Option String := none
  format : String := "pretty"
  list : Bool := false
  deriving DecidableEq, Repr, Inhabited

/-- List the inspections that are switched on. -/
structure InspectionsRequest where
  context : String := "test"
  config : Option String := none
  format : String := "pretty"
  deriving DecidableEq, Repr, Inhabited

/-- Write a configuration to start from. -/
structure InitRequest where
  output : String := "shelldoc.yaml"
  deriving DecidableEq, Repr, Inhabited

/-- What a run is asked to do. -/
inductive Command where
  | doc (request : DocRequest)
  | inspections (request : InspectionsRequest)
  | init (request : InitRequest)
  deriving DecidableEq, Repr

/-- A command, and whether more of the log is wanted. -/
structure Request where
  verbose : Bool
  command : Command
  deriving DecidableEq, Repr

/-! ## Arguments -/

namespace CommandLine

/-- The options of all commands. -/
inductive OptionName where
  | kind
  | asWritten
  | docsDirectory
  | config
  | format
  | list
  | context
  | output
  | verbose
  | help
  | version
  deriving DecidableEq, Repr

/-- What comes with an option. -/
inductive Operand where
  | nothing
  | text
  /-- The path of a file, which may not be empty. -/
  | path
  deriving DecidableEq, Repr

/-- An option. -/
structure CommandOption where
  name : OptionName
  long : String
  letter : Option Char := none
  operand : Operand := .nothing

/-- The arguments that a command takes. -/
structure Grammar where
  options : List CommandOption
  takesWords : Bool

/-- The option for more of the log, which every command takes. -/
def verboseOption : CommandOption := ⟨.verbose, "verbose", some 'v', .nothing⟩

/-- The option for help, which every command takes. -/
def helpOption : CommandOption := ⟨.help, "help", some 'h', .nothing⟩

/-- The option for the path of a configuration. -/
def configOption : CommandOption := ⟨.config, "config", some 'c', .path⟩

/-- The option for the format of a report. -/
def formatOption : CommandOption := ⟨.format, "format", some 'f', .text⟩

/-- What may come before the name of a command. -/
def mainGrammar : Grammar where
  options := [verboseOption, helpOption, ⟨.version, "version", some 'V', .nothing⟩]
  takesWords := false

/-- The arguments of the command for documentation. -/
def docGrammar : Grammar where
  options :=
    [⟨.kind, "kind", some 'k', .text⟩, ⟨.asWritten, "original", none, .text⟩,
     ⟨.docsDirectory, "docs-dir", some 'd', .path⟩, configOption, formatOption,
     ⟨.list, "list", some 'l', .nothing⟩, verboseOption, helpOption]
  takesWords := true

/-- The arguments of the command for inspections. -/
def inspectionsGrammar : Grammar where
  options :=
    [⟨.context, "context", none, .text⟩, configOption, formatOption, verboseOption, helpOption]
  takesWords := false

/-- The arguments of the command for a new configuration. -/
def initGrammar : Grammar where
  options := [⟨.output, "output", some 'o', .path⟩, verboseOption, helpOption]
  takesWords := false

/-! ## Reading arguments -/

/-- Arguments of which a part has been read. -/
structure Arguments where
  /-- The options that have been given, with their values; without value, the text is empty. -/
  given : List (OptionName × String) := []
  /-- An option that takes a value, with the value if there is one already. -/
  pending : Option (CommandOption × Option String) := none
  /-- The words, in order. -/
  words : List String := []

namespace Arguments

/-- The value of an option. -/
def value? (a : Arguments) (name : OptionName) : Option String :=
  a.given.lookup name

/-- Whether an option is given. -/
def has (a : Arguments) (name : OptionName) : Bool :=
  (a.value? name).isSome

/-- Take an option with its value. It may be given once, and a path may not be empty. -/
def add (a : Arguments) (o : CommandOption) (value : String) : Except UsageEnd Arguments :=
  if a.has o.name then .error .repeatedOption
  else if o.operand == .path && value.isEmpty then .error .unusableValue
  else .ok { a with given := a.given ++ [(o.name, value)] }

/-- Take the option whose value has been waited for. -/
def settle (a : Arguments) : Except UsageEnd Arguments :=
  match a.pending with
  | none => .ok a
  | some (_, none) => .error .unusableValue
  | some (o, some value) => { a with pending := none }.add o value

/-- Take an option without value. Help and the version are shown at once. -/
def addFlag (a : Arguments) (o : CommandOption) : Except UsageEnd Arguments := do
  let a ← a.settle
  match o.name with
  | .help => .error .help
  | .version => .error .version
  | _ => a.add o ""

/-- Take an option that takes a value, with the value if it is attached. -/
def addOption (a : Arguments) (o : CommandOption) (attached : Option String) :
    Except UsageEnd Arguments := do
  let a ← a.settle
  match attached with
  | some value => a.add o value
  | none => .ok { a with pending := some (o, none) }

/-- Take an option that is given by its long name, with the value after an equals sign if there is
one. -/
def addLong (g : Grammar) (a : Arguments) (long : String) (attached : Option String) :
    Except UsageEnd Arguments :=
  match g.options.find? fun o => o.long == long with
  | none => .error .unknownArgument
  | some o =>
    if o.operand != .nothing then a.addOption o attached
    else if attached.isSome then .error .unwantedValue
    else a.addFlag o

/-- Take options that are given by their letters. What comes after the letter of an option that
takes a value is the value. -/
def addLetters (g : Grammar) (a : Arguments) : List Char → Except UsageEnd Arguments
  | [] => .ok a
  | letter :: rest =>
    match g.options.find? fun o => o.letter == some letter with
    | none => .error .unknownArgument
    | some o =>
      if o.operand == .nothing then do
        addLetters g (← a.addFlag o) rest
      else
        let attached :=
          match rest with
          | [] => none
          | '=' :: value => some (String.ofList value)
          | value => some (String.ofList value)
        a.addOption o attached

/-- Take an argument that is an option; none if it is a word. -/
def addIfOption (g : Grammar) (a : Arguments) (argument : String) :
    Except UsageEnd (Option Arguments) :=
  match argument.toList with
  | '-' :: '-' :: rest =>
    let long := rest.takeWhile (· != '=')
    let attached :=
      match rest.dropWhile (· != '=') with
      | [] => none
      | _ :: value => some (String.ofList value)
    (a.addLong g (String.ofList long) attached).map some
  | '-' :: letter :: rest => (a.addLetters g (letter :: rest)).map some
  | _ => .ok none

/-- Take a word, if the command takes words. -/
def addWord (g : Grammar) (a : Arguments) (word : String) : Except UsageEnd Arguments :=
  if g.takesWords then do
    let a ← a.settle
    .ok { a with words := a.words ++ [word] }
  else .error .unknownArgument

/-- Take all arguments of a command. -/
def addAll (g : Grammar) (a : Arguments) : List String → Except UsageEnd Arguments
  | [] => a.settle
  | argument :: rest =>
    if argument == "--" then do
      (← rest.foldlM (addWord g) a).settle
    else do
      match ← a.addIfOption g argument, a.pending with
      | some a, _ => addAll g a rest
      | none, some (o, none) => addAll g { a with pending := some (o, some argument) } rest
      | none, _ => addAll g (← a.addWord g argument) rest

end Arguments

/-! ## Commands -/

/-- The request for documentation. -/
def docRequest (a : Arguments) : DocRequest :=
  let standard : DocRequest := {}
  { names := a.words
    kind := (a.value? .kind).getD standard.kind
    asWritten := a.value? .asWritten
    docsDirectory := a.value? .docsDirectory
    config := a.value? .config
    format := (a.value? .format).getD standard.format
    list := a.has .list }

/-- The request for inspections. -/
def inspectionsRequest (a : Arguments) : InspectionsRequest :=
  let standard : InspectionsRequest := {}
  { context := (a.value? .context).getD standard.context
    config := a.value? .config
    format := (a.value? .format).getD standard.format }

/-- The request for a new configuration. -/
def initRequest (a : Arguments) : InitRequest :=
  let standard : InitRequest := {}
  { output := (a.value? .output).getD standard.output }

/-- The arguments and the request of the command with the given name. -/
def commandOfName? (name : String) : Option (Grammar × (Arguments → Command)) :=
  if name == "doc" || name == "show" then some (docGrammar, fun a => .doc (docRequest a))
  else if name == "inspections" then
    some (inspectionsGrammar, fun a => .inspections (inspectionsRequest a))
  else if name == "init" then some (initGrammar, fun a => .init (initRequest a))
  else none

/-- The name of the command that shows help. -/
def helpName : String := "help"

/-- Whether a word is the name of a command. -/
def isCommandName (name : String) : Bool :=
  name == helpName || (commandOfName? name).isSome

/-- Help on a command, or on all. -/
def helpOn : List String → UsageEnd
  | [] => .help
  | [name] => if isCommandName name then .help else .unknownCommand
  | _ => .unknownCommand

/-- Read the arguments after the name of a command, or after some that come before it. -/
def parseFrom (before : Arguments) : List String → Except UsageEnd Request
  | [] => .error (if before.given.isEmpty then .nothingGiven else .noCommand)
  | argument :: rest =>
    if argument == helpName then .error (helpOn rest)
    else
      match commandOfName? argument with
      | some (grammar, command) => do
        let a ← Arguments.addAll grammar {} rest
        .ok ⟨before.has .verbose || a.has .verbose, command a⟩
      | none =>
        if argument == "--" then
          match rest with
          | [] => .error (if before.given.isEmpty then .nothingGiven else .noCommand)
          | word :: _ => .error (if isCommandName word then .unknownArgument else .unknownCommand)
        else do
          match ← before.addIfOption mainGrammar argument with
          | some before => parseFrom before rest
          | none => .error .unknownCommand

end CommandLine

/-- Read a command line, without the name of the program. -/
def Request.parse (arguments : List String) : Except UsageEnd Request :=
  CommandLine.parseFrom {} arguments

end ShellPages
