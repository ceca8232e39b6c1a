import ShellPages.Glob.Set

/-!
# Inspections

The closed list of inspections of scripts. An inspection is known by its id, which is what
settings and reports use.

A project switches inspections off by patterns for their ids. A text that is no pattern switches
off the inspection whose id it is. If one of the patterns is too deep, all of them are taken as
such texts. Tests use every inspection.
-/

namespace ShellPages

/-! ## The registry -/

/-- A rule of static analysis. -/
inductive Inspection where
  | fixShebang
  | addShebang
  | simpleVarUsage
  | globalLocalVarDef
  | functionDef
  | wrapWordInString
  | convertSubshell
  | duplicateFunctionDef
  | missingIncludeFile
  | recursiveIncludeFile
  | evaluateExpansion
  | unresolvedVariable
  | evaluateArithmeticExpression
  | floatArithmetic
  | readOnlyVariable
  | internalVariable
  | unknownFiledescriptor
  | unusedFunctionParameter
  | convertBackquote
  | unusedFunctionDef
  | simpleArrayUse
  | internalCommandFunctionOverride
  deriving DecidableEq, Repr, Inhabited

namespace Inspection

/-- Every inspection, in the order of the registry. -/
def all : List Inspection :=
  [fixShebang, addShebang, simpleVarUsage, globalLocalVarDef, functionDef, wrapWordInString,
   convertSubshell, duplicateFunctionDef, missingIncludeFile, recursiveIncludeFile,
   evaluateExpansion, unresolvedVariable, evaluateArithmeticExpression, floatArithmetic,
   readOnlyVariable, internalVariable, unknownFiledescriptor, unusedFunctionParameter,
   convertBackquote, unusedFunctionDef, simpleArrayUse, internalCommandFunctionOverride]

/-- The id of an inspection. -/
def id : Inspection → String
  | fixShebang => "fix_shebang"
  | addShebang => "add_shebang"
  | simpleVarUsage => "simple_var_usage"
  | globalLocalVarDef => "global_local_var_def"
  | functionDef => "function_def"
  | wrapWordInString => "wrap_word_in_string"
  | convertSubshell => "convert_subshell"
  | duplicateFunctionDef => "duplicate_function_def"
  | missingIncludeFile => "missing_include_file"
  | recursiveIncludeFile => "recursive_include_file"
  | evaluateExpansion => "evaluate_expansion"
  | unresolvedVariable => "unresolved_variable"
  | evaluateArithmeticExpression => "evaluate_arithmetic_expression"
  | floatArithmetic => "float_arithmetic"
  | readOnlyVariable => "read_only_variable"
  | internalVariable => "internal_variable"
  | unknownFiledescriptor => "unknown_filedescriptor"
  | unusedFunctionParameter => "unused_function_parameter"
  | convertBackquote => "convert_backquote"
  | unusedFunctionDef => "unused_function_def"
  | simpleArrayUse => "simple_array_use"
  | internalCommandFunctionOverride => "internal_command_function_override"

/-- What an inspection finds, in a few words. -/
def description : Inspection → String
  | fixShebang => "Shebang line points to an unusual interpreter"
  | addShebang => "Script has no shebang line"
  | simpleVarUsage => "Variable use can be wrapped in braces"
  | globalLocalVarDef => "Local variable declared outside a function"
  | functionDef => "Function definition uses non-portable syntax"
  | wrapWordInString => "Unquoted word can be wrapped in a string"
  | convertSubshell => "Command substitution can be written with backquotes"
  | duplicateFunctionDef => "Function is defined more than once"
  | missingIncludeFile => "Sourced file does not exist"
  | recursiveIncludeFile => "File sources itself"
  | evaluateExpansion => "Static expansion can be evaluated"
  | unresolvedVariable => "Variable is never defined"
  | evaluateArithmeticExpression => "Constant arithmetic can be evaluated"
  | floatArithmetic => "Floating point numbers in integer arithmetic"
  | readOnlyVariable => "Assignment to a read-only variable"
  | internalVariable => "Assignment to a shell-internal variable"
  | unknownFiledescriptor => "Redirection uses an unknown file descriptor"
  | unusedFunctionParameter => "Function is called with unused parameters"
  | convertBackquote => "Backquote command substitution can use $(...)"
  | unusedFunctionDef => "Function is never called"
  | simpleArrayUse => "Array is used like a plain variable"
  | internalCommandFunctionOverride => "Function shadows a builtin command"

/-- The inspection with the given id. -/
def ofId? (id : String) : Option Inspection :=
  all.find? fun i => i.id == id

/-- What is said of a text that is no id. -/
def unknownMessage (id : String) : String :=
  s!"unknown inspection: {id}"

end Inspection

/-! ## Inspections that are switched on -/

/-- The inspections of a project. -/
structure InspectionSettings where
  /-- Patterns for the ids of the inspections that are switched off. -/
  disabled : List String := []
  deriving DecidableEq, Repr, Inhabited

namespace InspectionSettings

/-- Read one more text with an id in mind. A pattern joins those read before, and a text that is
no pattern is left out. If such a text is the id itself, there is nothing to match any more. -/
def addPattern? (id : String) (patterns : List (List Glob.Token)) (text : String) :
    Option (List (List Glob.Token)) :=
  match Glob.parse text with
  | .ok tokens => some (patterns ++ [tokens])
  | .error _ => if text == id then none else some patterns

/-- Whether an inspection is switched off. -/
def disables (s : InspectionSettings) (i : Inspection) : Bool :=
  if s.disabled.isEmpty then false
  else
    match s.disabled.foldlM (addPattern? i.id) [] with
    | none => true
    | some patterns =>
      match Glob.PatternSet.ofList? patterns with
      | some set => set.isMatch i.id.toList
      | none => s.disabled.contains i.id

end InspectionSettings

/-- Who asks for inspections. -/
inductive InspectionContext where
  /-- Tests, which use every inspection. -/
  | test
  /-- A project with its settings. -/
  | project (settings : InspectionSettings)
  deriving Repr

/-- The inspections that are switched on, in the order of the registry. -/
def enabledInspections : InspectionContext → List Inspection
  | .test => Inspection.all
  | .project settings => Inspection.all.filter fun i => !settings.disables i

end ShellPages
