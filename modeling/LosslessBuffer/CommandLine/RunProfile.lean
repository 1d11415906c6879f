import LosslessBuffer.Yaml.Decode.Compound
import LosslessBuffer.Json.Reader
import LosslessBuffer.Toml.Reader
import LosslessBuffer.Dotenv.Reader
import LosslessBuffer.Decimal.Read
import LosslessBuffer.Text.Case
/-!
# Run profiles

A run profile is a file of settings named by `--config`. Its format is told by the
extension of its name, the text after the last dot of the last part of the path:

* `yaml` or `yml`: a YAML mapping from texts to values;
* `json`: a JSON object, its numbers read as doubles (one too large for a double is
  refused); null is a profile with no settings, and any other value is refused;
* `toml`: the top-level keys of a TOML document;
* `env` or `dotenv`: the variables of an environment file, all texts.

The extensions `properties`, `props`, `prop`, `hcl`, `tfvars` and `ini` are known but
have no reader. Any other extension, or none, is refused before the file is read
(`Unsupported Config Type "txt"`).

Keys are taken in lower case, so `ASIC: td3` sets `asic`; lowering a key turns each byte
that starts no UTF-8 character into U+FFFD. An empty document is a profile
with no settings. A problem in the text is reported after `While parsing config: `.
-/

set_option autoImplicit false

namespace LosslessBuffer.CommandLine

open LosslessBuffer.Yaml
open LosslessBuffer.Text

/-- The formats a run profile may be written in. -/
inductive ProfileFormat where
  | yaml
  | json
  | toml
  | dotenv
  /-- A format known by its extension that has no reader. -/
  | unreadable
  deriving DecidableEq, Repr

/-- The extension of a path: what follows the last dot of its last part, if anything
follows it. -/
def extensionOf (path : String) : String :=
  let last := (path.splitOn "/").getLastD ""
  match last.splitOn "." with
  | [_] => ""
  | parts => parts.getLastD ""

/-- The format an extension names, if it names one. -/
def ProfileFormat.ofExtension? : String → Option ProfileFormat
  | "yaml" | "yml" => some .yaml
  | "json" => some .json
  | "toml" => some .toml
  | "dotenv" | "env" => some .dotenv
  | "properties" | "props" | "prop" | "hcl" | "tfvars"
  | "ini" => some .unreadable
  | _ => none

/-- A map with its keys in lower case, each stray byte of a key shown as U+FFFD. -/
def lowerKeys (m : Std.TreeMap Bytes Value) : Std.TreeMap String Value :=
  m.foldl (fun out key value => out.insert (Text.toLower key.lossy) value) ∅

/-- The message of a number too large for a double, at a path of member names and item
positions from the top of the text. -/
def numberTooLarge (text : String) (path : List String) : String :=
  "json: cannot unmarshal number " ++ text ++ " into Go " ++
    (if path.isEmpty then "value" else "struct field ." ++ ".".intercalate path) ++
    " of type float64"

mutual
/-- The value of a JSON element at a path: numbers are doubles, and one too large for a
double is refused. -/
def elementValue (path : List String) : Json.Element → Except String Value
  | .null => .ok .null
  | .bool b => .ok (.bool b)
  | .number text =>
    match Decimal.readFloat text with
    | some f => .ok (.float f)
    | none => .error (numberTooLarge text path)
  | .string s => .ok (.string s)
  | .array items => (elementValues path 0 items).map Value.list
  | .object members => (memberValues path members).map fun entries => Value.map entries true

/-- The values of the items of an array from position `index` on, in order. -/
def elementValues (path : List String) (index : Nat) : List Json.Element →
    Except String (List Value)
  | [] => .ok []
  | item :: rest => do
    let value ← elementValue (path ++ [toString index]) item
    let values ← elementValues path (index + 1) rest
    return value :: values

/-- The entries of an object's members, in order. -/
def memberValues (path : List String) : List (String × Json.Element) →
    Except String (List (Value × Value))
  | [] => .ok []
  | (key, item) :: rest => do
    let value ← elementValue (path ++ [key]) item
    let entries ← memberValues path rest
    return (.string key, value) :: entries
end

/-- The settings of a JSON profile: an object's members, a later one of a name winning;
null is no settings, and any other value is refused. -/
def jsonSettings (text : String) : Except String (Std.TreeMap Bytes Value) :=
  match Json.read text with
  | .error problem => .error problem.message
  | .ok .null => .ok ∅
  | .ok (.object members) => do
    let entries ← memberValues [] members
    return entries.foldl (fun out entry => match entry.1 with
      | .string key => out.insert key entry.2
      | _ => out) ∅
  | .ok other =>
    .error ("json: cannot unmarshal " ++ other.kind ++
      " into Go value of type map[string]interface \x7b\x7d")

mutual
/-- The value of a TOML item: a date-time with a zone is a timestamp, and one without
is its canonical text. -/
def itemValue : Toml.Item → Value
  | .string s => .string s
  | .integer i => .int i.toInt
  | .float f => .float f
  | .bool b => .bool b
  | .dateTime (.offset t) => .time t
  | .dateTime (.localDateTime date clock) => .string (date.text ++ "T" ++ clock.text)
  | .dateTime (.localDate date) => .string date.text
  | .dateTime (.localTime clock) => .string clock.text
  | .array items => .list (itemValues items)
  | .table entries => .map (entryValues entries) true

/-- The values of items, in order. -/
def itemValues : List Toml.Item → List Value
  | [] => []
  | item :: rest => itemValue item :: itemValues rest

/-- The entries of a table as map entries. -/
def entryValues : List (String × Toml.Item) → List (Value × Value)
  | [] => []
  | (key, item) :: rest => (.string key, itemValue item) :: entryValues rest
end

/-- The settings of a TOML profile: its top-level entries. -/
def tomlSettings (text : String) : Except String (Std.TreeMap Bytes Value) :=
  (Toml.read text).map fun entries =>
    (entryValues entries).foldl (fun out entry => match entry.1 with
      | .string key => out.insert key entry.2
      | _ => out) ∅

/-- Reads the settings of a run profile in a format; `environment` gives the variables
the program was started with, which an environment file may refer to. The YAML reader of
run profiles reports its own breakdown as a YAML error. -/
def ProfileFormat.read (format : ProfileFormat) (environment : String → Option String)
    (text : String) : Except String (Std.TreeMap String Value) :=
  match format with
  | .yaml =>
    match decodeText text (Slot.stringMap Slot.dynamic .null) ∅ with
    | .ok settings => .ok (lowerKeys settings)
    | .error fault =>
      .error (match fault.root with
        | .crashed message => "yaml: " ++ message
        | _ => fault.message)
  | .json => (jsonSettings text).map lowerKeys
  | .toml => (tomlSettings text).map lowerKeys
  | .dotenv =>
    (Dotenv.read text environment).map fun pairs =>
      lowerKeys (pairs.foldl (fun out entry => out.insert (Bytes.ofString entry.1) (.string entry.2)) ∅)
  | .unreadable => .error "decoder not found for this format"

end LosslessBuffer.CommandLine
