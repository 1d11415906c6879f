import LosslessBuffer.Text.Quoted
import LosslessBuffer.Text.Case
/-!
# Command-line arguments

The program `qosgen` has two commands, `calc` and `asics`, and the commands `help` and
`completion` that print usage. Every command takes the flags `--config` and `--log` and
the switch `--help` (`-h`); `calc` takes its own flags besides (`calcFlags`).

Reading a command line has two steps.

1. *Finding the command* (`findCommand`): the words of the line that are neither flags
   nor flag values are looked at; the first names the command. A flag not known at the
   top level (`--help` included) is taken to need a value, so it hides the word after
   it, and a flag that needs a value and stands second to last hides the last word and
   ends the search. A first word that
   names no command is an unknown command, and commands close to it in spelling are
   suggested (`suggestionsFor`).
2. *Reading the flags* (`readFlags`) of the command found: `--name=value`,
   `--name value`, a switch alone (`--dualtor`) or with a value (`--dualtor=false`), and
   `--` ending the flags; words that are not flags are positional, and a group of
   one-letter flags starting `-test.` is passed over. An unknown flag, a flag without
   its value, and a switch value that is no boolean are faults.
-/

set_option autoImplicit false

namespace LosslessBuffer.CommandLine

/-- How a flag takes its value. -/
inductive FlagKind where
  | text
  /-- A boolean that is true when the flag stands alone. -/
  | switch
  deriving DecidableEq, Repr

/-- A flag a command accepts. -/
structure Flag where
  name : String
  kind : FlagKind
  default : String
  shorthand : Option Char
  deriving Repr

/-- A text flag without a one-letter name. -/
def Flag.textFlag (name default : String) : Flag := ⟨name, .text, default, none⟩

/-- A switch without a one-letter name, false unless given. -/
def Flag.switchFlag (name : String) : Flag := ⟨name, .switch, "false", none⟩

/-- The switch that asks for usage. -/
def helpFlag : Flag := ⟨"help", .switch, "false", some 'h'⟩

/-- The flags every command takes from the top level. -/
def globalFlags : List Flag :=
  [.textFlag "config" "", .textFlag "log" "warn"]

/-- The flags every command takes: the global ones and the help switch. -/
def commonFlags : List Flag :=
  globalFlags ++ [helpFlag]

/-- The flags of `calc`, besides the common ones. -/
def calcFlags : List Flag :=
  [.textFlag "asic" "", .textFlag "scenario" "", .textFlag "qos-params" "",
   .textFlag "buffer-config" "", .textFlag "asic-config" "", .textFlag "profile" "",
   .switchFlag "dualtor", .textFlag "dut-topo" "", .textFlag "testbed" "",
   .textFlag "override-gate" "always", .textFlag "trace" "none", .switchFlag "scenario-only"]

/-- The commands of the program. -/
inductive Verb where
  | calc
  | asics
  | help
  | completion
  deriving DecidableEq, Repr

/-- The name of a command. -/
def Verb.name : Verb → String
  | .calc => "calc"
  | .asics => "asics"
  | .help => "help"
  | .completion => "completion"

/-- The commands, in the order they are offered as suggestions. -/
def Verb.all : List Verb := [.calc, .asics, .help, .completion]

/-- Whether a command is offered as a suggestion: all but `help`. -/
def Verb.suggested (v : Verb) : Bool := v ≠ .help

/-- The flags a command takes. -/
def Verb.flags : Verb → List Flag
  | .calc => calcFlags ++ commonFlags
  | _ => commonFlags

/-- The name of the program. -/
def programName : String := "qosgen"

/-- The path of a command, as messages name it. -/
def Verb.path (v : Verb) : String := programName ++ " " ++ v.name

/-- The flag of a long name. -/
def lookupFlag (flags : List Flag) (name : String) : Option Flag :=
  flags.find? (·.name == name)

/-- The flag of a one-letter name. -/
def lookupShorthand (flags : List Flag) (c : Char) : Option Flag :=
  flags.find? (·.shorthand == some c)

/-- Whether a word is a flag that takes no value after it: a known switch, by long name
(`--name`) or one-letter name (`-h`). -/
def standsAlone (flags : List Flag) (word : String) : Bool :=
  if word.startsWith "--" then
    ((lookupFlag flags (word.drop 2).toString).map (·.kind == .switch)).getD false
  else
    match word.toList with
    | [_, c] => ((lookupShorthand flags c).map (·.kind == .switch)).getD false
    | _ => false

/-- Whether a word is a flag whose value follows as the next word: `--name` or a
two-byte `-x` without `=`, unless it is a switch. An unknown flag counts as taking a
value. -/
def takesNextWord (flags : List Flag) (word : String) : Bool :=
  !word.contains '=' && !standsAlone flags word &&
    (word.startsWith "--" || (word.startsWith "-" && word.utf8ByteSize = 2))

/-- The words of a line that are neither flags nor flag values, up to `--`. -/
def commandWords (flags : List Flag) : List String → List String
  | [] => []
  | word :: rest =>
    if word = "--" then []
    else if takesNextWord flags word then
      match rest with
      | _ :: next :: more => commandWords flags (next :: more)
      | _ => []
    else if word ≠ "" && !word.startsWith "-" then word :: commandWords flags rest
    else commandWords flags rest

/-- The line without the first word equal to `name` that is neither a flag nor a flag
value. -/
def withoutWord (flags : List Flag) (name : String) : List String → List String
  | [] => []
  | word :: rest =>
    if word = "--" then word :: rest
    else if takesNextWord flags word then
      match rest with
      | value :: more => word :: value :: withoutWord flags name more
      | [] => [word]
    else if !word.startsWith "-" && word = name then rest
    else word :: withoutWord flags name rest

/-! ## Suggestions -/

/-- One row of the edit-distance table: the distances from a prefix of the first word
ending in `a` to every prefix of the second word, given the row before. -/
def distanceRow (a : UInt8) (previous : List Nat) (rowStart : Nat) (second : List UInt8) :
    List Nat :=
  go previous rowStart second
where
  go : List Nat → Nat → List UInt8 → List Nat
    | diagonal :: above :: restAbove, left, b :: restSecond =>
      let here :=
        if a = b then diagonal else (min (min above left) diagonal) + 1
      here :: go (above :: restAbove) here restSecond
    | _, _, _ => []

/-- The edit distance between two byte strings: insertions, deletions and
substitutions. -/
def editDistance (first second : List UInt8) : Nat :=
  let start := List.range (second.length + 1)
  let final := (first.zip (List.range first.length)).foldl
    (fun row (a, i) => (i + 1) :: distanceRow a row (i + 1) second) start
  final.getLastD 0

/-- The commands to suggest for an unknown one: those within two edits of it, or
starting with it, ignoring case. -/
def suggestionsFor (typed : String) : List Verb :=
  Verb.all.filter fun v =>
    v.suggested &&
      (editDistance (Text.toLower typed).toUTF8.toList (Text.toLower v.name).toUTF8.toList ≤ 2 ||
        (Text.toLower v.name).startsWith (Text.toLower typed))

/-- The suggestion paragraph of an unknown command, empty without suggestions. -/
def suggestionText (typed : String) : String :=
  match suggestionsFor typed with
  | [] => ""
  | found => "\n\nDid you mean this?\n" ++ String.join (found.map fun v => "\t" ++ v.name ++ "\n")

/-! ## Finding the command -/

/-- What the first step of reading a line finds. -/
inductive Found where
  | command (verb : Verb) (rest : List String)
  | top (rest : List String)
  | unknown (message : String)
  deriving Repr

/-- The command a line names. Only the global flags are known while the command is looked
for, so a help switch before the command is taken to need a value. -/
def findCommand (args : List String) : Found :=
  match commandWords globalFlags args with
  | [] => .top args
  | first :: _ =>
    match Verb.all.find? (·.name == first) with
    | some verb => .command verb (withoutWord globalFlags first args)
    | none =>
      .unknown ("unknown command " ++ Text.quote first ++ " for " ++ Text.quote programName ++
        suggestionText first)

/-! ## Reading flags -/

/-- The flags set on a line, in order, and its positional words. -/
structure FlagReading where
  /-- Flag names and values as set; a later setting of a flag wins. -/
  sets : List (String × String) := []
  positional : List String := []
  deriving Repr

/-- The value of a flag as set on the line, if it was. -/
def FlagReading.value? (r : FlagReading) (name : String) : Option String :=
  (r.sets.filter (·.1 == name)).getLast?.map (·.2)

/-- Reads a boolean as flags do: `1`, `t`, `T`, `TRUE`, `true`, `True` and their
opposites `0`, `f`, `F`, `FALSE`, `false`, `False`. -/
def parseBool? (s : String) : Option Bool :=
  if ["1", "t", "T", "TRUE", "true", "True"].contains s then some true
  else if ["0", "f", "F", "FALSE", "false", "False"].contains s then some false
  else none

/-- The text of a boolean. -/
def boolText (b : Bool) : String := if b then "true" else "false"

/-- How a flag is named in messages: with its one-letter name when it has one. -/
def Flag.display (f : Flag) : String :=
  match f.shorthand with
  | some c => "-" ++ c.toString ++ ", --" ++ f.name
  | none => "--" ++ f.name

/-- Sets a flag to a value, a switch only to a boolean. -/
def FlagReading.set (r : FlagReading) (f : Flag) (value : String) : Except String FlagReading :=
  match f.kind with
  | .text => .ok { r with sets := r.sets ++ [(f.name, value)] }
  | .switch =>
    match parseBool? value with
    | some b => .ok { r with sets := r.sets ++ [(f.name, boolText b)] }
    | none =>
      .error ("invalid argument " ++ Text.quote value ++ " for " ++ Text.quote f.display ++
        " flag: strconv.ParseBool: parsing " ++ Text.quote value ++ ": invalid syntax")

/-- Reads a group of one-letter flags (`-h`, `-h=false`); the rest of a group from
`test.` on is left for test runners. -/
def readShorthands (flags : List Flag) (r : FlagReading) : List Char → Except String FlagReading
  | [] => .ok r
  | c :: rest =>
    let group := String.ofList (c :: rest)
    if group.startsWith "test." then .ok r else
    match lookupShorthand flags c with
    | none =>
      .error ("unknown shorthand flag: " ++ Text.quoteByte (Text.leadByte c) ++ " in -" ++ group)
    | some f =>
      match rest with
      | '=' :: value@(_ :: _) => r.set f (String.ofList value)
      | _ =>
        match f.kind with
        | .switch => do readShorthands flags (← r.set f "true") rest
        | .text =>
          if rest.isEmpty then .error ("flag needs an argument: " ++ Text.quoteByte c ++ " in -" ++ group)
          else r.set f (String.ofList rest)

/-- Reads the flags of a line, given the flags a command takes. -/
def readFlags (flags : List Flag) (r : FlagReading) : List String → Except String FlagReading
  | [] => .ok r
  | word :: rest =>
    if word.isEmpty || !word.startsWith "-" || word.length = 1 then
      readFlags flags { r with positional := r.positional ++ [word] } rest
    else if word = "--" then .ok { r with positional := r.positional ++ rest }
    else if word.startsWith "--" then
      let body := (word.drop 2).toString
      if body.startsWith "-" || body.startsWith "=" then .error ("bad flag syntax: " ++ word)
      else
        let name := (body.splitOn "=").headD ""
        let inline := if body.contains '=' then some ((body.drop (name.length + 1)).toString) else none
        match lookupFlag flags name with
        | none => .error ("unknown flag: --" ++ name)
        | some f =>
          match inline, f.kind with
          | some value, _ => do readFlags flags (← r.set f value) rest
          | none, .switch => do readFlags flags (← r.set f "true") rest
          | none, .text =>
            match rest with
            | value :: more => do readFlags flags (← r.set f value) more
            | [] => .error ("flag needs an argument: " ++ word)
    else do
      let r ← readShorthands flags r (word.drop 1).toString.toList
      readFlags flags r rest

end LosslessBuffer.CommandLine
