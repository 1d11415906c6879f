import LosslessBuffer.CommandLine.Usage
import LosslessBuffer.CommandLine.Settings
import LosslessBuffer.CommandLine.Logging
import LosslessBuffer.CommandLine.RunProfile
import LosslessBuffer.Calculation
import LosslessBuffer.Params.Decode
import LosslessBuffer.Params.Encode
import LosslessBuffer.Params.Text
import LosslessBuffer.Buffer.Decode
import LosslessBuffer.Trace.Encode
/-!
# The program

`run` is the whole program `qosgen`: given a way to read files, the environment and the
words of its command line, it gives its exit status and what it writes to its output and
error streams (`Transcript`). An error ends a run with status 1 and the line
`Error: <message>` on the error stream, after whatever was logged before it.

A run goes through these stages, the first error ending it:

1. the command is found (`findCommand`); an unknown one is reported with the hint to ask
   for help;
2. the command's flags are read (`readFlags`); `--help`, and a command that does not run
   by itself, print usage;
3. `calc` and `asics` take no positional words;
4. the run profile named by `--config` is read, and the log level is set;
5. `asics` prints its table; `calc` checks its settings (`CalcSettings.check`), loads the
   parameter table, the buffer configuration and the register snapshot if one is named,
   and calculates (`generate`). It logs a summary, writes the trace to the error stream
   when one is asked for, and prints the parameter table, or with `--scenario-only` only
   the target scenario, as YAML.

Settings are byte strings, as a run profile may give any bytes. Names keep their bytes
and are quoted with them in messages; a path or a trace level is taken as text, each
byte that starts no UTF-8 character shown as U+FFFD, which names no file and no level.
-/

set_option autoImplicit false

namespace LosslessBuffer.CommandLine

open LosslessBuffer.Yaml
open LosslessBuffer.Text

/-- What a run of the program leaves: its exit status and its two output streams. -/
structure Transcript where
  /-- The exit status: 0 on success, 1 after an error. -/
  exitCode : Nat := 0
  stdout : String := ""
  stderr : String := ""
  deriving Repr, DecidableEq

/-- A run that ended with an error, after writing `written` to the error stream. -/
def Transcript.failed (written message : String) : Transcript :=
  { exitCode := 1, stderr := written ++ "Error: " ++ message ++ "\n" }

/-! ## The settings of `calc` -/

/-- The settings `calc` runs with. -/
structure CalcSettings where
  asic : Bytes
  scenario : Bytes
  qosParams : String
  bufferConfig : String
  /-- The path of the register snapshot; empty for none. -/
  asicConfig : String
  /-- The ingress lossless profile; empty for the one named after the scenario. -/
  profile : Bytes
  dualTor : Bool
  dutTopo : Bytes
  testbed : Bytes
  overrideGate : Bytes
  trace : String
  scenarioOnly : Bool
  deriving Repr

/-- The settings of `calc` as the layers give them. -/
def CalcSettings.of (s : Settings) : CalcSettings where
  asic := s.text "asic"
  scenario := s.text "scenario"
  qosParams := (s.text "qos-params").lossy
  bufferConfig := (s.text "buffer-config").lossy
  asicConfig := (s.text "asic-config").lossy
  profile := s.text "profile"
  dualTor := s.switch "dualtor"
  dutTopo := s.text "dut-topo"
  testbed := s.text "testbed"
  overrideGate := s.text "override-gate"
  trace := (s.text "trace").lossy
  scenarioOnly := s.switch "scenario-only"

/-- Checks the settings: the four inputs are named (the missing ones are listed in order),
the override gate is `always` or `dualtor` (or empty), and the trace level is known. -/
def CalcSettings.check (c : CalcSettings) : Except String Unit :=
  let required := [("asic", c.asic.isEmpty), ("scenario", c.scenario.isEmpty),
    ("qos-params", c.qosParams.isEmpty), ("buffer-config", c.bufferConfig.isEmpty)]
  let missing := ((required.filter fun entry => entry.2).map fun entry =>
    "--" ++ entry.1).mergeSort fun a b => decide (a ≤ b)
  if !missing.isEmpty then .error ("missing required settings: " ++ ", ".intercalate missing)
  else if (c.overrideGate.toString?.bind OverrideGate.ofName?).isNone then
    .error ("unknown --override-gate " ++ c.overrideGate.quote ++ " (valid: always, dualtor)")
  else if !isValidTraceLevel c.trace then .error "--trace must be one of none, decisions, terms"
  else .ok ()

/-- The request of a calculation from the settings and the loaded inputs. -/
def CalcSettings.request (c : CalcSettings) (params : ParamTable) (cfg : BufferConfig)
    (registers : Option RegisterSnapshot) : Request where
  params := some params
  bufferConfig := some cfg
  registers := registers
  asic := c.asic
  scenario := c.scenario
  ingressProfile := c.profile
  topology := { dualTor := c.dualTor, dutTopo := c.dutTopo, testbed := c.testbed }
  gate := c.overrideGate

/-! ## Output of `calc` -/

/-- The summary logged after a calculation. -/
def summaryEntry (c : CalcSettings) (o : Outcome) : LogEntry where
  severity := .info
  message := "Calculation complete."
  fields :=
    [("asic", c.asic.lossy), ("scenario", c.scenario.lossy),
     ("cell_size", toString o.calculation.cellSizeBytes),
     ("shared_buffer_cells", toString o.calculation.sharedBufferCells),
     ("effective_shared_cells", toString o.calculation.effectiveSharedCells),
     ("alpha", toString o.calculation.alpha), ("updates", toString o.updates.length),
     ("skips", toString o.skips.length)]

/-- The YAML printed after a calculation: the whole table, or a mapping of the target
scenario alone (null when the table has no block under that key). -/
def calcOutput (c : CalcSettings) (table : ParamTable) : String :=
  if c.scenarioOnly then
    let block := match table.scenarios.get? c.scenario.lossy with
      | some s => s.toTree
      | none => Tree.plain "null"
    (Tree.mapping [((Value.string c.scenario).toTree, block)]).render
  else table.toYaml

/-- Reads an input file and loads it; a file that cannot be read is reported after
`reading <what>: `. -/
def loadInput {m : Type → Type} [Monad m] {α : Type} (read : String → m (Except String String))
    (what path : String) (load : String → Except Fault α) : ExceptT String m α := do
  let result ← ExceptT.lift (read path)
  match result with
  | .error complaint => throw ("reading " ++ what ++ ": " ++ complaint)
  | .ok text =>
    match load text with
    | .ok value => pure value
    | .error fault => throw fault.message

/-- Loads the inputs `calc` names: the parameter table, the buffer configuration and, when
one is named, the register snapshot, in that order. -/
def loadInputs {m : Type → Type} [Monad m] (read : String → m (Except String String))
    (c : CalcSettings) : ExceptT String m (ParamTable × BufferConfig × Option RegisterSnapshot) := do
  let params ← loadInput read "qos params" c.qosParams ParamTable.load
  let cfg ← loadInput read "buffer config" c.bufferConfig BufferConfig.load
  let registers ←
    if c.asicConfig.isEmpty then pure none
    else some <$> loadInput read "asic config" c.asicConfig RegisterSnapshot.load
  return (params, cfg, registers)

/-- The trace text written after a calculation: the trace as YAML when it is enabled. -/
def traceOutput (journal : Journal) : String :=
  match journal.trace with
  | some t => if t.enabled then t.toYaml else ""
  | none => ""

/-- Runs `calc` at a log level. -/
def runCalc {m : Type → Type} [Monad m] (read : String → m (Except String String))
    (level : LogLevel) (c : CalcSettings) : m Transcript := do
  if let .error message := c.check then return .failed "" message
  match ← (loadInputs read c).run with
  | .error message => return .failed "" message
  | .ok (params, cfg, registers) =>
    let journal : Journal := { trace := some (Trace.empty c.trace) }
    match (generate (c.request params cfg registers) (some Family.lookup)).run' journal with
    | (.error fault, j) =>
      return .failed (logText level j.entries)
        (c.asic.lossy ++ " " ++ c.scenario.lossy ++ ": " ++ fault.message)
    | (.ok o, j) =>
      return { stdout := calcOutput c o.params
               stderr := logText level (j.entries ++ [summaryEntry c o]) ++ traceOutput j }

/-! ## `asics` -/

/-- A line of the family table. -/
def asicsRow (family cellSize engines accounting : String) : String :=
  padRight 8 family ++ " " ++ padRight 10 cellSize ++ " " ++ padRight 8 engines ++ " " ++
    accounting ++ "\n"

/-- The table of families: name, cell size, engine count and accounting method. -/
def asicsTable : String :=
  asicsRow "FAMILY" "CELL_SIZE" "ENGINES" "ACCOUNTING" ++
    String.join (Family.all.map fun f =>
      asicsRow f.name (toString f.cellSize) (toString f.engineCount) f.accounting.name)

/-! ## Running a command -/

/-- Reads the run profile at a path: the format from its extension, then the file. -/
def readRunProfile {m : Type → Type} [Monad m] (read : String → m (Except String String))
    (environment : String → Option String) (path : String) :
    m (Except String (Std.TreeMap String Value)) := do
  let extension := extensionOf path
  match ProfileFormat.ofExtension? extension with
  | none => return .error ("Unsupported Config Type " ++ Text.quote extension)
  | some format =>
    match ← read path with
    | .error complaint => return .error complaint
    | .ok text => return (format.read environment text).mapError fun problem => "While parsing config: " ++ problem

/-- What every command that runs does first: reads the run profile `--config` names and
settles the log level. Gives the settings and the level. -/
def prepare {m : Type → Type} [Monad m] (read : String → m (Except String String))
    (environment : String → Option String) (verb : Verb) (given : FlagReading) :
    m (Except String (Settings × LogLevel)) := do
  let path := (given.value? "config").getD ""
  let profile ← if path.isEmpty then pure (.ok ∅) else readRunProfile read environment path
  match profile with
  | .error problem => return .error ("reading run profile: " ++ problem)
  | .ok profile =>
    let settings : Settings := { flags := verb.flags, given, environment, profile }
    let named := settings.text "log"
    match named.toString?.bind LogLevel.ofText? with
    | none => return .error ("invalid log level " ++ named.quote)
    | some level => return .ok (settings, level)

/-- Runs a command whose flags have been read. -/
def runVerb {m : Type → Type} [Monad m] (read : String → m (Except String String))
    (environment : String → Option String) (verb : Verb) (given : FlagReading) : m Transcript := do
  if given.value? "help" = some "true" then return { stdout := helpText (some verb) }
  match verb with
  | .completion => return { stdout := helpText (some .completion) }
  | .help =>
    match ← prepare read environment verb given with
    | .error message => return .failed "" message
    | .ok _ =>
      match topicOf given.positional with
      | some topic => return { stdout := topic.help }
      | none => return { stdout := unknownTopic given.positional }
  | .calc | .asics =>
    if let first :: _ := given.positional then
      return .failed "" ("unknown command " ++ Text.quote first ++ " for " ++ Text.quote verb.path)
    match ← prepare read environment verb given with
    | .error message => return .failed "" message
    | .ok (settings, level) =>
      if verb = .asics then return { stdout := asicsTable }
      runCalc read level (CalcSettings.of settings)

/-- Runs the program on the words of its command line. `read` gives the text of a file or
the system's complaint about it, and `environment` the value of an environment
variable. -/
def run {m : Type → Type} [Monad m] (read : String → m (Except String String))
    (environment : String → Option String) (args : List String) : m Transcript :=
  match findCommand args with
  | .unknown message =>
    pure (.failed "" (message ++ "\nRun '" ++ programName ++ " --help' for usage."))
  | .top rest =>
    match readFlags commonFlags {} rest with
    | .error message => pure (.failed "" message)
    | .ok _ => pure { stdout := helpText none }
  | .command verb rest =>
    match readFlags verb.flags {} rest with
    | .error message => pure (.failed "" message)
    | .ok given => runVerb read environment verb given

end LosslessBuffer.CommandLine
