import ShellPages.Config.Discovery
import ShellPages.Config.Written
import ShellPages.Text.Utf8
import ShellPages.Yaml.Reading

/-!
# Reading configurations

A configuration is read from a text or from a file. A text of nothing but blanks is the empty
configuration, and so is one that holds no data. In a file, a relative root is meant from the
directory of the file.
-/

namespace ShellPages

/-- Why a configuration cannot be read. -/
inductive ConfigReadFault where
  /-- The file cannot be read. -/
  | file (fault : Files.Fault)
  /-- The text is no configuration. -/
  | text (fault : Yaml.Fault)

/-- The text of a fault. -/
def ConfigReadFault.message : ConfigReadFault → String
  | file fault => fault.message
  | text fault => fault.message

namespace Config

/-- The configuration of data of its shape. -/
def ofData (data : Json) : Except ConfigReadFault Config :=
  match Written.ofJson? data with
  | some config => .ok config
  | none => .error (.text .malformed)

/-- Read a configuration from a text. -/
def parse (text : String) : Except ConfigReadFault Config := do
  if Text.isBlankText text then .ok {}
  else ofData (← (Yaml.read (Written.shape Config) text).mapError .text)

/-- A configuration whose relative root is meant from a directory. -/
def resolveRoot (c : Config) (directory : String) : Config :=
  { c with docs.root? := c.docs.root?.map (Files.join directory) }

end Config

namespace Machine

/-- The text of a file. -/
def readText (m : Machine) (path : String) : Except Files.Fault String := do
  match Text.decode (← m.files.read m.cwd path) with
  | .ok text => .ok text
  | .error _ => .error .notUtf8

/-- Read the configuration in a file. -/
def readConfig (m : Machine) (path : String) : Except ConfigReadFault Config := do
  let text ← (m.readText path).mapError .file
  let config ← Config.parse text
  .ok ((Files.parent? path).elim config config.resolveRoot)

end Machine

end ShellPages
