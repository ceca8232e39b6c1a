import ShellPages.Page.Store

/-!
# The pages of the program itself

The pages that are always at hand: one for each of some builtins, below `documentation/internal`,
and one for each of some other commands, below `documentation/external`.
-/

namespace ShellPages.Page

/-- Paths and texts of the pages that are always at hand. -/
def pack : List (String × String) :=
  [("documentation/internal/alias.html",
    "<h3>alias</h3>\n<pre>alias [-p] [name[=value] ...]</pre>\n<p>Define or display aliases. " ++
    "Without arguments, <code>alias</code> prints the list of aliases in the reusable form " ++
    "<code>alias NAME=VALUE</code>. Otherwise an alias is defined for each NAME whose VALUE " ++
    "is given.</p>\n"),
   ("documentation/internal/cd.html",
    "<h3>cd</h3>\n<pre>cd [-L|[-P [-e]] [-@]] [dir]</pre>\n<p>Change the current directory " ++
    "to DIR. The default DIR is the value of the <code>HOME</code> shell variable. The variable " ++
    "<code>CDPATH</code> defines the search path for the directory containing DIR.</p>\n"),
   ("documentation/internal/declare.html",
    "<h3>declare</h3>\n<pre>declare [-aAfFgilnrtux] [-p] [name[=value] ...]</pre>\n<p>Set " ++
    "variable " ++
    "values and attributes. Declare variables and give them attributes. If no NAMEs are given, " ++
    "display the attributes and values of all variables.</p>\n"),
   ("documentation/internal/echo.html",
    "<h3>echo</h3>\n<pre>echo [-neE] [arg ...]</pre>\n<p>Write arguments to the standard " ++
    "output. " ++
    "Display the ARGs, separated by a single space character and followed by a newline, on " ++
    "the standard output.</p>\n"),
   ("documentation/internal/eval.html",
    "<h3>eval</h3>\n<pre>eval [arg ...]</pre>\n<p>Execute arguments as a shell command. Combine " ++
    "ARGs into a single string, use the result as input to the shell, and execute the resulting " ++
    "commands.</p>\n"),
   ("documentation/internal/exit.html",
    "<h3>exit</h3>\n<pre>exit [n]</pre>\n<p>Exit the shell with a status of N. If N is omitted, " ++
    "the exit status is that of the last command executed.</p>\n"),
   ("documentation/internal/export.html",
    "<h3>export</h3>\n<pre>export [-fn] [name[=value] ...] or export -p</pre>\n<p>Set export " ++
    "attribute for shell variables. Marks each NAME for automatic export to the environment " ++
    "of subsequently executed commands.</p>\n"),
   ("documentation/internal/local.html",
    "<h3>local</h3>\n<pre>local [option] name[=value] ...</pre>\n<p>Define local variables. " ++
    "Create a local variable called NAME, and give it VALUE. <code>local</code> can only be " ++
    "used within a function.</p>\n"),
   ("documentation/internal/printf.html",
    "<h3>printf</h3>\n<pre>printf [-v var] format [arguments]</pre>\n<p>Formats and prints " ++
    "ARGUMENTS under control of the FORMAT. FORMAT is a character string which contains plain " ++
    "characters, escape sequences and format specifications.</p>\n"),
   ("documentation/internal/read.html",
    "<h3>read</h3>\n<pre>read [-ers] [-a array] [-d delim] [-i text] [-n nchars] [-N nchars] " ++
    "[-p prompt] [-t timeout] [-u fd] [name ...]</pre>\n<p>Read a line from the standard input " ++
    "and split it into fields. The line is split into fields as with word splitting, and the " ++
    "first word is assigned to the first NAME.</p>\n"),
   ("documentation/internal/readonly.html",
    "<h3>readonly</h3>\n<pre>readonly [-aAf] [name[=value] ...] or readonly -p</pre>\n<p>Mark " ++
    "shell variables as unchangeable. The values of these NAMEs may not be changed by " ++
    "subsequent " ++
    "assignment.</p>\n"),
   ("documentation/internal/return.html",
    "<h3>return</h3>\n<pre>return [n]</pre>\n<p>Return from a shell function. Causes a function " ++
    "or sourced script to exit with the return value specified by N.</p>\n"),
   ("documentation/internal/set.html",
    "<h3>set</h3>\n<pre>set [-abefhkmnptuvxBCHP] [-o option-name] [--] [arg ...]</pre>\n<p>Set " ++
    "or unset values of shell options and positional parameters.</p>\n"),
   ("documentation/internal/shift.html",
    "<h3>shift</h3>\n<pre>shift [n]</pre>\n<p>Shift positional parameters. Rename the " ++
    "positional " ++
    "parameters $N+1,$N+2 ... to $1,$2 ... If N is not given, it is assumed to be 1.</p>\n"),
   ("documentation/internal/source.html",
    "<h3>source</h3>\n<pre>source filename [arguments]</pre>\n<p>Execute commands from a file " ++
    "in the current shell. Read and execute commands from FILENAME in the current shell.</p>\n"),
   ("documentation/internal/test.html",
    "<h3>test</h3>\n<pre>test [expr]</pre>\n<p>Evaluate conditional expression. Exits with " ++
    "a status of 0 (true) or 1 (false) depending on the evaluation of EXPR.</p>\n"),
   ("documentation/internal/trap.html",
    "<h3>trap</h3>\n<pre>trap [-lp] [[arg] signal_spec ...]</pre>\n<p>Trap signals and other " ++
    "events. Defines and activates handlers to be run when the shell receives signals or other " ++
    "conditions.</p>\n"),
   ("documentation/internal/unset.html",
    "<h3>unset</h3>\n<pre>unset [-f] [-v] [-n] [name ...]</pre>\n<p>Unset values and attributes " ++
    "of shell variables and functions.</p>\n"),
   ("documentation/external/cat.html",
    "<h3>cat</h3>\n<pre>cat [OPTION]... [FILE]...</pre>\n<p>Concatenate FILE(s) to standard " ++
    "output. With no FILE, or when FILE is -, read standard input.</p>\n"),
   ("documentation/external/chmod.html",
    "<h3>chmod</h3>\n<pre>chmod [OPTION]... MODE[,MODE]... FILE...</pre>\n<p>Change the mode " ++
    "of each FILE to MODE.</p>\n"),
   ("documentation/external/cp.html",
    "<h3>cp</h3>\n<pre>cp [OPTION]... SOURCE... DIRECTORY</pre>\n<p>Copy SOURCE to DEST, or " ++
    "multiple SOURCE(s) to DIRECTORY.</p>\n"),
   ("documentation/external/find.html",
    "<h3>find</h3>\n<pre>find [starting-point...] [expression]</pre>\n<p>Search for files in " ++
    "a directory hierarchy.</p>\n"),
   ("documentation/external/grep.html",
    "<h3>grep</h3>\n<pre>grep [OPTION...] PATTERNS [FILE...]</pre>\n<p>Search for PATTERNS " ++
    "in each FILE and print lines that match.</p>\n"),
   ("documentation/external/ls.html",
    "<h3>ls</h3>\n<pre>ls [OPTION]... [FILE]...</pre>\n<p>List information about the FILEs " ++
    "(the current directory by default).</p>\n"),
   ("documentation/external/mkdir.html",
    "<h3>mkdir</h3>\n<pre>mkdir [OPTION]... DIRECTORY...</pre>\n<p>Create the DIRECTORY(ies), " ++
    "if they do not already exist.</p>\n"),
   ("documentation/external/mv.html",
    "<h3>mv</h3>\n<pre>mv [OPTION]... SOURCE... DIRECTORY</pre>\n<p>Rename SOURCE to DEST, " ++
    "or move SOURCE(s) to DIRECTORY.</p>\n"),
   ("documentation/external/rm.html",
    "<h3>rm</h3>\n<pre>rm [OPTION]... [FILE]...</pre>\n<p>Remove (unlink) the FILE(s).</p>\n"),
   ("documentation/external/sed.html",
    "<h3>sed</h3>\n<pre>sed [OPTION]... \x7bscript-only-if-no-other-script\x7d " ++
    "[input-file]...</pre>\n<p>Stream " ++
    "editor for filtering and transforming text.</p>\n")]

/-- The shelf with the pages that are always at hand. -/
def packShelf : Shelf :=
  .ofList (pack.map fun (path, text) => (path, text.toUTF8))

end ShellPages.Page
