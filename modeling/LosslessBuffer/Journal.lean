import LosslessBuffer.Fault
import LosslessBuffer.Trace
/-!
# Journals

A calculation writes log entries and, when a trace is attached, trace records, and may
stop with a fault. `Step` is the monad of such a calculation: the journal it has written
survives a fault, so a failed calculation still shows what it logged and traced.
-/

set_option autoImplicit false

namespace LosslessBuffer

/-- The severity of a log entry, from the most to the least verbose. -/
inductive Severity where
  | trace
  | debug
  | info
  | warning
  | error
  deriving DecidableEq, Repr

/-- The name of a severity as written in log output. -/
def Severity.name : Severity → String
  | .trace => "trace"
  | .debug => "debug"
  | .info => "info"
  | .warning => "warning"
  | .error => "error"

/-- The rank of a severity; a higher rank is more severe. -/
def Severity.rank : Severity → Nat
  | .trace => 0
  | .debug => 1
  | .info => 2
  | .warning => 3
  | .error => 4

/-- One log entry: a severity, a message and named fields. The message is a byte string,
since it may show configuration text as it was read. -/
structure LogEntry where
  severity : Severity
  message : Text.Bytes
  fields : List (String × String) := []
  deriving Repr

/-- What a calculation has written so far. -/
structure Journal where
  entries : List LogEntry := []
  trace : Option Trace := none
  deriving Repr

/-- A calculation that writes a journal and may stop with a fault. -/
abbrev Step := ExceptT Fault (StateM Journal)

/-- Writes a log entry. -/
def Step.log (severity : Severity) (message : Text.Bytes) : Step Unit :=
  modify fun j => { j with entries := j.entries ++ [⟨severity, message, []⟩] }

/-- Changes the attached trace, if there is one. -/
def Step.traced (change : Trace → Trace) : Step Unit :=
  modify fun j => { j with trace := j.trace.map change }

/-- Stops with a fault. -/
def Step.fail {α : Type} (fault : Fault) : Step α :=
  throw fault

/-- Runs a computation that may fail as a step. -/
def Step.ofExcept {α : Type} (result : Except Fault α) : Step α :=
  match result with
  | .ok value => pure value
  | .error fault => throw fault

/-- Runs a step from a journal, giving its outcome and the journal after it. -/
def Step.run' {α : Type} (step : Step α) (start : Journal) : Except Fault α × Journal :=
  (ExceptT.run step).run start

end LosslessBuffer
