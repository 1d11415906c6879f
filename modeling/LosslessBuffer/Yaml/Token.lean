import LosslessBuffer.Yaml.Scalar.Style
import LosslessBuffer.Yaml.Character
/-!
# YAML tokens

The tokens of YAML text, each with the positions where it starts and stops, and the
problem that ends reading when text is not well formed.

A position (`Mark`) counts characters from the start of the text, lines from zero and
columns from zero. A problem carries the position where it was found and, when it
belongs to a construct begun earlier, the position of that construct. Its message names
one line, counted as the problems of this reader always have been: the line of the
construct if it is not the first, else the line of the problem if that is not the first,
else none; problems found while splitting text into tokens count lines from one, those
found while assembling tokens into nodes from zero.
-/

set_option autoImplicit false

namespace LosslessBuffer.Yaml

/-- A position in the text: characters before it, and its line and column from zero. -/
structure Mark where
  index : Nat := 0
  line : Nat := 0
  column : Nat := 0
  deriving Repr, Inhabited, DecidableEq

/-- The kinds of token. -/
inductive TokenKind where
  | streamStart
  | streamEnd
  | versionDirective (major minor : Nat)
  | tagDirective (handle tagPrefix : String)
  | documentStart
  | documentEnd
  | blockSequenceStart
  | blockMappingStart
  | blockEnd
  | flowSequenceStart
  | flowSequenceEnd
  | flowMappingStart
  | flowMappingEnd
  | blockEntry
  | flowEntry
  | key
  | value
  | aliasName (name : String)
  | anchor (name : String)
  | tag (handle suffix : String)
  | scalar (text : String) (style : ScalarStyle)
  deriving Repr, Inhabited, DecidableEq

/-- A token with the positions where it starts and stops. -/
structure Token where
  kind : TokenKind
  start : Mark
  stop : Mark
  deriving Repr, Inhabited

/-- The part of reading that found a problem. -/
inductive Stage where
  | decoding
  | scanning
  | parsing
  | composing
  deriving Repr, DecidableEq

/-- Why text could not be read. -/
structure ReadError where
  stage : Stage
  problem : String
  problemMark : Mark := {}
  /-- Where the construct it belongs to began. -/
  contextMark : Mark := {}
  deriving Repr

/-- The line a problem names, or zero for none. -/
def ReadError.line (e : ReadError) : Nat :=
  let shift := if e.stage = .scanning then 1 else 0
  if e.contextMark.line ≠ 0 then e.contextMark.line + shift
  else if e.problemMark.line ≠ 0 then e.problemMark.line + shift
  else 0

/-- The message of a problem: `yaml: line N: problem`, or without a line. -/
def ReadError.message (e : ReadError) : String :=
  if e.stage = .composing || e.line = 0 then "yaml: " ++ e.problem
  else "yaml: line " ++ toString e.line ++ ": " ++ e.problem

end LosslessBuffer.Yaml
