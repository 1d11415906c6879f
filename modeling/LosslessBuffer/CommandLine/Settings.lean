import LosslessBuffer.CommandLine.Args
import LosslessBuffer.Yaml.Value
import Std.Data.TreeMap
/-!
# Settings

A setting of the command line is looked up in four layers, the first that has it
winning (`Settings.lookup`):

1. the flag, when it was given on the line;
2. the environment variable `QOSGEN_<NAME>`, the name in upper case with `-` as `_`,
   when it is set and not empty;
3. the run profile, when it holds a value other than null for the name, in any case;
4. the flag's default.

A setting is read as text (`Settings.text`) or as a switch (`Settings.switch`). From the
environment and from flags both are read from text, a switch by `parseBool?` (anything
else is false). A run-profile value is converted: text as it is, booleans and numbers in
their plain decimal form, a timestamp in its long form, and a list or map is the empty
text; as a switch, a number is true unless zero and text is read as above. A setting's
text is a byte string, since a run profile's `!!binary` value may hold any bytes.
-/

set_option autoImplicit false

namespace LosslessBuffer.CommandLine

open LosslessBuffer.Yaml
open LosslessBuffer.Decimal
open LosslessBuffer.Text

/-- Where a setting's value came from. -/
inductive Source where
  /-- A flag given on the line, or a flag's default. -/
  | flag (value : String)
  | environment (value : String)
  | profile (value : Value)
  deriving Inhabited

/-- The layers settings are looked up in. -/
structure Settings where
  flags : List Flag
  given : FlagReading
  environment : String → Option String
  /-- The run profile, keys in lower case. -/
  profile : Std.TreeMap String Value := ∅

/-- The environment variable of a setting. -/
def environmentName (name : String) : String :=
  "QOSGEN_" ++ (name.map fun c => if c = '-' then '_' else c.toUpper)

/-- Where a setting's value comes from, if from anywhere. -/
def Settings.lookup (s : Settings) (name : String) : Option Source :=
  match s.given.value? name with
  | some value => some (.flag value)
  | none =>
    match s.environment (environmentName name) with
    | some value =>
      if value.isEmpty then fromProfile else some (.environment value)
    | none => fromProfile
where
  /-- The run profile's value, else the flag's default. -/
  fromProfile : Option Source :=
    match s.profile.get? name with
    | some Value.null | none => (lookupFlag s.flags name).map fun f => .flag f.default
    | some value => some (.profile value)

/-- A run-profile value as text. -/
def profileText : Value → Bytes
  | .null => ""
  | .bool b => boolText b
  | .int i => Value.decimalText i
  | .uint n => toString n
  | .float f => fixedText f
  | .string s => s
  | .time t => Value.timeText t
  | .list _ => ""
  | .map _ _ => ""

/-- A run-profile value as a switch. -/
def profileSwitch : Value → Bool
  | .bool b => b
  | .int i => i ≠ 0
  | .uint n => n ≠ 0
  | .float f => f != 0
  | .string s => (parseBool? s.lossy).getD false
  | _ => false

/-- A setting as text; empty when nothing gives it. -/
def Settings.text (s : Settings) (name : String) : Bytes :=
  match s.lookup name with
  | some (.flag value) | some (.environment value) => value
  | some (.profile value) => profileText value
  | none => ""

/-- A setting as a switch; false when nothing gives it. -/
def Settings.switch (s : Settings) (name : String) : Bool :=
  match s.lookup name with
  | some (.flag value) | some (.environment value) => (parseBool? value).getD false
  | some (.profile value) => profileSwitch value
  | none => false

end LosslessBuffer.CommandLine
