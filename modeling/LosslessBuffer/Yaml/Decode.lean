import LosslessBuffer.Yaml.Node.Reader
import LosslessBuffer.Fault
import LosslessBuffer.Text.Category

/-!
# Decoding YAML nodes into typed values

A `Slot α` says how a node is read into a place that holds an `α`: integers, booleans,
strings, optional values, records with named fields, maps with string keys, and the
dynamic `Value`. Reading a node gives the new content of the place and whether the node
was taken; a node of the wrong shape leaves the place as it was.

Two kinds of problem arise. A value of the wrong type is recorded as one line
(`line N: cannot unmarshal !!tag `text` into type`) and reading goes on, so that every
such value is reported together. Text that cannot be decoded at all (an explicit tag its
text cannot carry, bad base64, an alias inside its own expansion, an invalid map key, a
merge of something other than maps) stops reading at once.

Rules shared by every slot:

* An alias is read as its anchored node; reading an alias again while it is being
  expanded stops. A document whose steps come almost all from expanding aliases stops
  too.
* A mapping with two keys of the same kind and text records one problem per repeated
  pair and is not taken.
* A key `<<` merges the mapping, or each mapping of a sequence, that it names: its keys
  fill what the mapping itself does not set, earlier mappings first.
-/

set_option autoImplicit false

namespace LosslessBuffer.Yaml

open LosslessBuffer.Text
open LosslessBuffer.Decimal

/-- The state of decoding nodes of one document. -/
structure Decoding where
  doc : Document
  problems : Array String := #[]
  /-- Alias occurrences being expanded. -/
  expanding : List Nat := []
  visits : Nat := 0
  aliasVisits : Nat := 0
  aliasDepth : Nat := 0
  /-- Keys already set by a mapping that merges others, while it merges them. -/
  merged : Option (List Value) := none

/-- Decoding that may stop with a fault. -/
abbrev Decode := StateT Decoding (Except Fault)

/-- How nodes are read into a place holding an `α`. -/
structure Slot (α : Type) where
  typeName : String
  /-- Reads a node that is not an alias, given a depth allowance and the content of the
  place; gives the new content and whether the node was taken. -/
  direct : Nat → Node → α → Decode (α × Bool)

namespace Decode

/-- Stops with an undecodable document. -/
def fatal {α : Type} (message : String) : Decode α :=
  throw (.unreadable ("yaml: " ++ message))

/-- Stops when the depth allowance is used up; a document never needs more. -/
def exhausted {α : Type} : Decode α :=
  fatal "exceeded max depth"

/-- Whether alias expansion has produced too many of the steps: more than 99 in 100 up to
400000 steps, falling to 1 in 10 at 4000000. -/
def excessiveAliasing (aliasVisits visits : Nat) : Bool :=
  aliasVisits > 100 && visits > 1000 &&
    (if visits ≤ 400000 then aliasVisits * 100 > 99 * visits
     else if visits ≥ 4000000 then aliasVisits * 10 > visits
     else
       -- allowed ratio 0.99 - 0.89 * (visits - 400000) / 3600000, compared exactly
       aliasVisits * 360000000 > visits * (356400000 - 89 * (visits - 400000)))

/-- Counts one node read. -/
def count : Decode Unit := do
  modify fun s => { s with
    visits := s.visits + 1
    aliasVisits := if s.aliasDepth > 0 then s.aliasVisits + 1 else s.aliasVisits }
  let s ← get
  if excessiveAliasing s.aliasVisits s.visits then fatal "document contains excessive aliasing"

/-- Reads a node with `direct` after counting it; an alias is expanded to its anchored
node, which is counted and read in its place. -/
def enter {α : Type} (n : Node) (current : α) (direct : Node → α → Decode (α × Bool)) :
    Decode (α × Bool) := do
  count
  match n with
  | .alias _ name _ occurrence =>
    if (← get).expanding.contains occurrence then
      fatal ("anchor '" ++ name ++ "' value contains itself")
    modify fun s => { s with expanding := occurrence :: s.expanding, aliasDepth := s.aliasDepth + 1 }
    count
    let result ← direct ((← get).doc.target n) current
    modify fun s => { s with expanding := s.expanding.erase occurrence, aliasDepth := s.aliasDepth - 1 }
    pure result
  | _ => direct n current

/-- The first seven bytes of a long text and an ellipsis; bytes cut from a character
become U+FFFD. Texts of at most ten bytes are whole. -/
def clipped (text : String) : String :=
  let bytes := text.toUTF8.toList
  if bytes.length > 10 then (Bytes.mk (bytes.take 7)).lossy ++ "..." else text

/-- Records that a node does not fit a type, and leaves the place as it was. The node's
own tag is named when it has one. -/
def mismatch {α : Type} (n : Node) (tag typeName : String) (current : α) : Decode (α × Bool) := do
  let tag := Tag.short (if n.tag ≠ "" then n.tag else tag)
  let shown := if tag = Tag.seq ∨ tag = Tag.map then "" else " `" ++ clipped n.text ++ "`"
  let problem := "line " ++ toString n.line ++ ": cannot unmarshal " ++ tag ++ shown ++ " into " ++
    typeName
  modify fun s => { s with problems := s.problems.push problem }
  pure (current, false)

/-- Records a problem for each pair of keys of the same kind and text, the later key's
line first; whether there were none. -/
def noDuplicates (entries : List (Node × Node)) : Decode Bool := do
  let keys := entries.map (·.1)
  let mut found := false
  let mut later := keys
  for ki in keys do
    later := later.drop 1
    for kj in later do
      if ki.kind == kj.kind && ki.text == kj.text then
        found := true
        let problem := "line " ++ toString kj.line ++ ": mapping key " ++ quote kj.text ++
          " already defined at line " ++ toString ki.line
        modify fun s => { s with problems := s.problems.push problem }
  pure !found

/-- The tag and value of a scalar node: its text for a string, the decoded bytes for
`!!binary`, else what its text resolves to under its tag. -/
def scalarOf (n : Node) : Decode (String × Value) :=
  if n.isIndicatedString then pure (Tag.str, .string n.text)
  else match resolve n.tag n.text with
    | .error message => fatal message
    | .ok (tag, value) =>
      if tag == Tag.binary then
        match decodeBase64 n.text with
        | none => fatal "!!binary value contains invalid base64 data"
        | some bytes => pure (tag, .string ⟨bytes⟩)
      else pure (tag, value)

/-- Whether a value is null. -/
def isNullValue : Value → Bool
  | .null => true
  | _ => false

/-- A mapping node of the wrong shape for a slot: the duplicate-key check, then a
problem. -/
def mappingMismatch {α : Type} (n : Node) (entries : List (Node × Node)) (typeName : String)
    (current : α) : Decode (α × Bool) := do
  if !(← noDuplicates entries) then return (current, false)
  mismatch n Tag.map typeName current

/-- A node read by a slot whose only shape is a scalar: `onScalar` decides from the tag
and value; null leaves the place unchanged; collections do not fit. -/
def scalarOnly {α : Type} (typeName : String) (onScalar : Node → String → Value → α → Decode (α × Bool))
    (n : Node) (current : α) : Decode (α × Bool) :=
  match n with
  | .scalar .. => do
    let (tag, value) ← scalarOf n
    if isNullValue value then pure (current, false) else onScalar n tag value current
  | .sequence .. => mismatch n Tag.seq typeName current
  | .mapping _ _ entries => mappingMismatch n entries typeName current
  | .alias .. => pure (current, false)

end Decode

namespace Slot

open Decode

/-- Reads any node, alias or not, into the place. -/
def read {α : Type} (slot : Slot α) (fuel : Nat) (n : Node) (current : α) : Decode (α × Bool) :=
  enter n current (slot.direct fuel)

/-- The whole part of a finite double, none for infinities and NaN. -/
def wholePart (x : Float) : Option Int :=
  let bits := x.toBits.toNat
  if bits / Nat.pow 2 52 % Nat.pow 2 11 = 2047 then none
  else
    let b := Binary.ofFloat x
    let magnitude : Nat :=
      if b.exponent ≥ 0 then b.significand * Nat.pow 2 b.exponent.toNat
      else b.significand / Nat.pow 2 (-b.exponent).toNat
    some (if bits ≥ Nat.pow 2 63 then -(magnitude : Int) else magnitude)

/-- A double read into a signed 64-bit place: NaN and values above `2^63` do not fit;
others are cut to their whole part, which outside the range becomes `-2^63`. -/
def floatToInt64 (x : Float) : Option Int64 :=
  if x.isNaN || x > 9223372036854775808.0 then none
  else match wholePart x with
    | some whole =>
      if -(Nat.pow 2 63 : Int) ≤ whole ∧ whole < (Nat.pow 2 63 : Int) then some (Int64.ofInt whole)
      else some (Int64.ofInt (-(Nat.pow 2 63 : Int)))
    | none => some (Int64.ofInt (-(Nat.pow 2 63 : Int)))

/-- A signed 64-bit integer place, named `typeName`: integers fit, doubles as
`floatToInt64` says, nothing else. -/
def integer (typeName : String) : Slot Int64 where
  typeName := typeName
  direct := fun _ => scalarOnly typeName fun n tag value current =>
    match value with
    | .int i => pure (Int64.ofInt i, true)
    | .float x => match floatToInt64 x with
      | some v => pure (v, true)
      | none => mismatch n tag typeName current
    | _ => mismatch n tag typeName current

/-- The words a boolean place also accepts as true. -/
def yesWords : List String := ["y", "Y", "yes", "Yes", "YES", "on", "On", "ON"]

/-- The words a boolean place also accepts as false. -/
def noWords : List String := ["n", "N", "no", "No", "NO", "off", "Off", "OFF"]

/-- A boolean place: booleans fit, and strings among `yesWords` and `noWords`. -/
def boolean : Slot Bool where
  typeName := "bool"
  direct := fun _ => scalarOnly "bool" fun n tag value current =>
    match value with
    | .bool b => pure (b, true)
    | .string s =>
      if s.isOneOf yesWords then pure (true, true)
      else if s.isOneOf noWords then pure (false, true)
      else mismatch n tag "bool" current
    | _ => mismatch n tag "bool" current

/-- A string place: any scalar but null gives its text, `!!binary` its decoded bytes. -/
def text : Slot Bytes where
  typeName := "string"
  direct := fun _ => scalarOnly "string" fun n tag value _ =>
    match tag == Tag.binary, value with
    | true, .string decoded => pure (decoded, true)
    | _, _ => pure (Bytes.ofString n.text, true)

/-- An optional place: a null node empties it; any other node fills it, reading into the
present content or `zero`. -/
def optional {α : Type} (inner : Slot α) (zero : α) : Slot (Option α) where
  typeName := "*" ++ inner.typeName
  direct := fun fuel n current => do
    if (← get).doc.isNull n then
      match n with
      | .scalar .. => pure (none, true)
      | .sequence .. => mismatch n Tag.seq ("*" ++ inner.typeName) current
      | .mapping _ _ entries => mappingMismatch n entries ("*" ++ inner.typeName) current
      | .alias .. => pure (current, false)
    else
      let (value, taken) ← inner.direct fuel n (current.getD zero)
      pure (some value, taken)

/-- A place for a decimal integer written as a scalar, quoted or not, with surrounding
white space ignored. A null node leaves it unchanged; any other node that is not a
decimal integer in the signed 64-bit range stops reading. -/
def decimal (typeName : String) : Slot Int64 where
  typeName := typeName
  direct := fun fuel n current => do
    if (← get).doc.isNull n then (integer typeName).direct fuel n current
    else match n with
      | .scalar .. =>
        let trimmed := trimWhiteSpace n.text
        match readInt64 trimmed with
        | .ok v => pure (v, true)
        | .error problem =>
          throw (.within ("line " ++ toString n.line) (.notInteger trimmed problem))
      | _ => throw (.plain ("line " ++ toString n.line ++ ": expected integer scalar"))

end Slot

end LosslessBuffer.Yaml
