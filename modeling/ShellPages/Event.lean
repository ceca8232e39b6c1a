import ShellPages.Text.Quoted

/-!
# Events and the log

A lookup never fails outward. What goes wrong on the way is an event, and events are sent to a
sink: one that keeps them, one that drops them, or one that turns them into lines of the log.

A line is shown with its level, its message and its fields. In the message the control characters
with which a terminal could be steered are written out.
-/

namespace ShellPages

/-! ## Events and sinks -/

/-- How serious an event is. -/
inductive Level where
  | debug
  | warn
  deriving DecidableEq, Repr

/-- The name of a level. -/
def Level.name : Level → String
  | .debug => "debug"
  | .warn => "warn"

/-- Something that a component reports. -/
structure Event where
  level : Level
  /-- The component that reports it. -/
  component : String
  message : String
  deriving DecidableEq, Repr

/-- The value of a field of a log line: written as it is, or between quotes. -/
inductive LogValue where
  | plain (text : String)
  | quoted (text : String)
  deriving DecidableEq, Repr

/-- The text of a value without its quotes. -/
def LogValue.text : LogValue → String
  | .plain text => text
  | .quoted text => text

/-- A line of the log. -/
structure LogLine where
  level : Level
  /-- The part of the program that writes it; filters select lines by it. -/
  target : String
  message : String
  fields : List (String × LogValue)
  deriving DecidableEq, Repr

/-- The line that stands for an event in the log. -/
def Event.logLine (e : Event) : LogLine :=
  ⟨e.level, "shelldoc", e.message, [("component", .quoted e.component)]⟩

/-- Where events go. -/
inductive Sink where
  /-- Keeps the events. -/
  | recording
  /-- Drops the events. -/
  | discarding
  /-- Writes the events to the log. -/
  | logging
  deriving DecidableEq, Repr

namespace Sink

/-- The sink used where none is named. -/
def standard : Sink := logging

/-- The events that a sink keeps of those it receives. -/
def kept (s : Sink) (events : List Event) : List Event :=
  match s with
  | recording => events
  | discarding | logging => []

/-- The log lines that a sink writes for the events it receives. -/
def logged (s : Sink) (events : List Event) : List LogLine :=
  match s with
  | logging => events.map Event.logLine
  | recording | discarding => []

end Sink

/-! ## Lines as they are shown -/

/-- A character of a message. -/
def shownChar (c : Char) : String :=
  match c with
  | '\x07' => "\\x07"
  | '\x08' => "\\x08"
  | '\x0c' => "\\x0c"
  | '\x1b' => "\\x1b"
  | '\x7f' => "\\x7f"
  | c =>
    if '\u0080' ≤ c && c ≤ '\u009F' then "\\u\x7b" ++ Text.hex c.toNat ++ "\x7d" else c.toString

/-- A field as it is shown. -/
def shownField : String × LogValue → String
  | (name, .plain value) => s!" {name}={value}"
  | (name, .quoted value) => s!" {name}={Text.quoted value}"

/-- A line of the log as it is shown. -/
def LogLine.text (l : LogLine) : String :=
  s!"{l.level.name.toUpper} {String.join (l.message.toList.map shownChar)}" ++
    String.join (l.fields.map shownField)

end ShellPages
