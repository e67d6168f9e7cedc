/-!
# The log

The log is a sequence of entries, each a note, a warning or an error with its message. Entries are
added at the end and never removed.
-/

set_option autoImplicit false

namespace DataStep

/-- How grave a log entry is. -/
inductive Severity where
  | note | warning | error
  deriving DecidableEq, Repr

/-- The word in front of a log line. -/
def Severity.label : Severity → String
  | note => "NOTE"
  | warning => "WARNING"
  | error => "ERROR"

/-- One line of the log. -/
structure LogEntry where
  severity : Severity
  message : String
  deriving DecidableEq

/-- An entry as a line. -/
def LogEntry.line (e : LogEntry) : String := s!"{e.severity.label}: {e.message}"

/-- Entries in the order in which they were written. -/
abbrev Log := Array LogEntry

namespace Log

/-- The log with a note at its end. -/
def note (log : Log) (message : String) : Log := Array.push log ⟨.note, message⟩

/-- The log with a warning at its end. -/
def warning (log : Log) (message : String) : Log := Array.push log ⟨.warning, message⟩

/-- The log with an error at its end. -/
def error (log : Log) (message : String) : Log := Array.push log ⟨.error, message⟩

/-- The entries of one severity. -/
def ofSeverity (log : Log) (severity : Severity) : List LogEntry :=
  log.toList.filter (·.severity == severity)

/-- Whether a text occurs in another. -/
def occursIn (needle : List Char) : List Char → Bool
  | [] => needle.isEmpty
  | c :: rest => needle.isPrefixOf (c :: rest) || occursIn needle rest

/-- Whether an entry of the given severity has the given text in its message. -/
def mentions (log : Log) (severity : Severity) (needle : String) : Bool :=
  (ofSeverity log severity).any fun e => occursIn needle.toList e.message.toList

/-- How many errors there are. -/
def errorCount (log : Log) : Nat := (ofSeverity log .error).length

/-- The log as text, one entry a line. -/
def render (log : Log) : String :=
  String.join (log.toList.map fun e => e.line ++ "\n")

end Log

end DataStep
