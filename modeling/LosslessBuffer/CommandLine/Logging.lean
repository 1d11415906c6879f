import LosslessBuffer.Journal
import LosslessBuffer.Text.Quoted
import LosslessBuffer.Text.Case
/-!
# Log output

The command line writes the log entries of a calculation to the error stream, one line
each, leaving out the entries below the log level asked for (`LogLevel.admits`).

A level is read without regard to the case of its ASCII letters; `warn` and `warning` are
the same level. From the quietest to the most verbose the levels are `panic`, `fatal`,
`error`, `warn`, `info`, `debug` and `trace`.

A line is `level=<severity>`, then `msg=<message>` unless the message is empty, then the
fields in the byte order of their names, each `name=value` (`logLine`). A value is
written as it is when it is made only of ASCII letters and digits and the characters
`-._/@^+` (so an empty value stays empty), and between double quotes with escapes
otherwise; a byte that starts no UTF-8 character is never bare, and is quoted as `\xHH`.
-/

set_option autoImplicit false

namespace LosslessBuffer.CommandLine

/-- How much is logged. -/
inductive LogLevel where
  | panic
  | fatal
  | error
  | warn
  | info
  | debug
  | trace
  deriving DecidableEq, Repr

/-- The verbosity of a log level: the number of levels quieter than it. -/
def LogLevel.verbosity : LogLevel → Nat
  | .panic => 0
  | .fatal => 1
  | .error => 2
  | .warn => 3
  | .info => 4
  | .debug => 5
  | .trace => 6

/-- The verbosity a log level needs for entries of a severity to be written. -/
def severityVerbosity : Severity → Nat
  | .error => 2
  | .warning => 3
  | .info => 4
  | .debug => 5
  | .trace => 6

/-- Whether entries of a severity are written at a log level. -/
def LogLevel.admits (level : LogLevel) (severity : Severity) : Bool :=
  severityVerbosity severity ≤ level.verbosity

/-- The log level a text names in any case, if any. -/
def LogLevel.ofText? (text : String) : Option LogLevel :=
  match Text.toLower text with
  | "panic" => some .panic
  | "fatal" => some .fatal
  | "error" => some .error
  | "warn" | "warning" => some .warn
  | "info" => some .info
  | "debug" => some .debug
  | "trace" => some .trace
  | _ => none

/-- Whether a character may stand in a logged value without quotes. -/
def isBareChar (c : Char) : Bool :=
  ('a' ≤ c && c ≤ 'z') || ('A' ≤ c && c ≤ 'Z') || ('0' ≤ c && c ≤ '9') ||
    "-._/@^+".toList.contains c

/-- A logged value: as it is when every character may stand bare, quoted otherwise. -/
def loggedValue (value : Text.Bytes) : String :=
  let shown := value.lossy
  if shown.all isBareChar then shown else value.quote

/-- The line of a log entry, with its line break. -/
def logLine (entry : LogEntry) : String :=
  let message := if entry.message.isEmpty then "" else " msg=" ++ loggedValue entry.message
  let fields := entry.fields.mergeSort fun a b => decide (a.1 ≤ b.1)
  "level=" ++ entry.severity.name ++ message ++
    String.join (fields.map fun field => " " ++ field.1 ++ "=" ++ loggedValue field.2) ++ "\n"

/-- The lines of the entries a log level admits. -/
def logText (level : LogLevel) (entries : List LogEntry) : String :=
  String.join ((entries.filter fun entry => level.admits entry.severity).map logLine)

end LosslessBuffer.CommandLine
