import LosslessBuffer.Yaml.Decode
import Std.Data.TreeMap

/-!
# Dynamic values, maps and records

The slots whose nodes contain other nodes.

* `Slot.dynamic` reads any node into a `Value`: scalars as they resolve, sequences as
  lists (items that cannot be read are left out), mappings as maps. A mapping whose keys
  are all strings (or `<<`) has string keys throughout, even for the keys it merges;
  otherwise keys keep their own values, and a list or map cannot be a key.

A mapping that merges others first reads all its own keys as dynamic values, to know
which keys the merged mappings may not set; a list or map among them, or among the keys
of a merged mapping read dynamically, breaks the reader down (`Fault.crashed`).
* `Slot.stringMap` reads a mapping into a map with string keys and elements of one slot.
* `Slot.record` reads a mapping into a record by its fields' keys. A key that names no
  field goes to the record's extras, if it keeps them, and is dropped otherwise; a field
  set twice is a problem.

In every mapping a null value is stored (as the element's empty content) unless the
map existed before and already has the key. Keys that cannot be read are skipped.
-/

set_option autoImplicit false

namespace LosslessBuffer.Yaml

open Decode
open LosslessBuffer.Text

/-- The keys of a mapping that a merge must not overwrite, as values; repeats dropped. -/
def addKey (keys : List Value) (key : Value) : List Value :=
  if keys.any (·.sameKey key) then keys else keys ++ [key]

/-- Stops as the reader breaks down when a list or a map has to be looked up among the
keys of a merge: such a value has no identity to look up by. -/
def unhashable {α : Type} (key : Value) : Decode α :=
  let typeName := match key with
    | .map _ textKeys => Value.mapTypeName textKeys
    | _ => "[]interface \x7b\x7d"
  throw (.crashed ("runtime error: hash of unhashable type " ++ typeName))

/-- The problem that a merge names something other than maps. -/
def mergeNeedsMaps {α : Type} : Decode α :=
  fatal "map merge requires map or sequence of maps as the value"

/-- Whether a merge source is a mapping, or an alias of one. -/
def isMergeable (doc : Document) (n : Node) : Bool :=
  (doc.target n).kind == .mapping

/-- The sources a merge value names, in order: a mapping or alias, or the items of a
sequence; none for any other node. -/
def mergeSources (n : Node) : Option (List Node) :=
  match n with
  | .mapping .. | .alias .. => some [n]
  | .sequence _ _ items => some items
  | .scalar .. => none

mutual

/-- Reads any node, alias or not, into a dynamic value. -/
def dynamicValue : Nat → Node → Value → Decode (Value × Bool)
  | 0, _, _ => exhausted
  | fuel + 1, n, current => enter n current (dynamicDirect fuel)

/-- Reads a node that is not an alias into a dynamic value. -/
def dynamicDirect : Nat → Node → Value → Decode (Value × Bool)
  | 0, _, _ => exhausted
  | fuel + 1, n, current =>
    match n with
    | .scalar .. => do
      let (_, value) ← scalarOf n
      pure (value, true)
    | .sequence _ _ items => do
      let mut out : Array Value := #[]
      for item in items do
        let (value, taken) ← dynamicValue fuel item .null
        if taken then out := out.push value
      pure (.list out.toList, true)
    | .mapping _ _ entries => do
      if !(← noDuplicates entries) then return (current, false)
      let stringKeys := (← get).doc.hasStringKeys entries
      let out ← dynamicEntries fuel stringKeys entries [] true
      pure (.map out stringKeys, true)
    | .alias .. => pure (current, false)

/-- Reads the entries of a mapping into a dynamic map, then merges what `<<` names.
`fresh` says whether the map is new. -/
def dynamicEntries : Nat → Bool → List (Node × Node) → List (Value × Value) → Bool →
    Decode (List (Value × Value))
  | 0, _, _, _, _ => exhausted
  | fuel + 1, stringKeys, entries, start, fresh => do
    let mut kept := (← get).merged
    modify fun s => { s with merged := none }
    let mut out := start
    let mut mergeNode : Option Node := none
    for (k, v) in entries do
      if k.isMergeKey then
        mergeNode := some v
        continue
      let (key, taken) ← if stringKeys then do
          let (s, taken) ← Slot.text.read fuel k ""
          pure (Value.string s, taken)
        else dynamicValue fuel k .null
      if !taken then continue
      if let some keys := kept then
        if key.isCollection then unhashable key
        if keys.any (·.sameKey key) then continue
        kept := some (keys ++ [key])
      if key.isCollection then fatal ("invalid map key: " ++ key.literal)
      let (element, taken) ← dynamicValue fuel v .null
      let absent := !out.any (·.1.sameKey key)
      if taken || ((← get).doc.isNull v && (fresh || absent)) then
        out := Value.setEntry out key element
    modify fun s => { s with merged := kept }
    let some m := mergeNode | return out
    let outer := (← get).merged
    if outer.isNone then
      let mut keys : List Value := []
      for (k, _) in entries do
        let (key, taken) ← dynamicValue fuel k .null
        if taken then
          if key.isCollection then unhashable key
          keys := addKey keys key
      modify fun s => { s with merged := some keys }
    let some sources := mergeSources m | mergeNeedsMaps
    for source in sources do
      if !isMergeable (← get).doc source then mergeNeedsMaps
      let (filled, _) ← enter source out fun target acc =>
        match target with
        | .mapping _ _ sourceEntries => do
          if !(← noDuplicates sourceEntries) then return (acc, false)
          pure (← dynamicEntries fuel stringKeys sourceEntries acc false, true)
        | _ => pure (acc, false)
      out := filled
    if outer.isNone then modify fun s => { s with merged := none }
    pure out

end

namespace Slot

/-- The dynamic slot: any node as a `Value`. -/
def dynamic : Slot Value where
  typeName := "interface \x7b\x7d"
  direct := fun fuel n current => dynamicDirect (fuel + 1) n current

end Slot

/-- Reads the entries of a mapping into a map with string keys, then merges what `<<`
names. -/
def stringMapEntries {ε : Type} (element : Slot ε) (empty : ε) :
    Nat → List (Node × Node) → Std.TreeMap Bytes ε → Bool → Decode (Std.TreeMap Bytes ε)
  | 0, _, _, _ => exhausted
  | fuel + 1, entries, start, fresh => do
    let mut kept := (← get).merged
    modify fun s => { s with merged := none }
    let mut out := start
    let mut mergeNode : Option Node := none
    for (k, v) in entries do
      if k.isMergeKey then
        mergeNode := some v
        continue
      let (key, taken) ← Slot.text.read fuel k ""
      if !taken then continue
      if let some keys := kept then
        if keys.any (·.sameKey (.string key)) then continue
        kept := some (keys ++ [.string key])
      let (value, taken) ← element.read fuel v empty
      if taken || ((← get).doc.isNull v && (fresh || !out.contains key)) then
        out := out.insert key value
    modify fun s => { s with merged := kept }
    let some m := mergeNode | return out
    let outer := (← get).merged
    if outer.isNone then
      let mut keys : List Value := []
      for (k, _) in entries do
        let (key, taken) ← dynamicValue fuel k .null
        if taken then
          if key.isCollection then unhashable key
          keys := addKey keys key
      modify fun s => { s with merged := some keys }
    let some sources := mergeSources m | mergeNeedsMaps
    for source in sources do
      if !isMergeable (← get).doc source then mergeNeedsMaps
      let (filled, _) ← enter source out fun target acc =>
        match target with
        | .mapping _ _ sourceEntries => do
          if !(← noDuplicates sourceEntries) then return (acc, false)
          pure (← stringMapEntries element empty fuel sourceEntries acc false, true)
        | _ => pure (acc, false)
      out := filled
    if outer.isNone then modify fun s => { s with merged := none }
    pure out

namespace Slot

/-- A map with string keys and elements read by `element`, each starting from `empty`. -/
def stringMap {ε : Type} (element : Slot ε) (empty : ε) : Slot (Std.TreeMap Bytes ε) where
  typeName := "map[string]" ++ element.typeName
  direct := fun fuel n current =>
    match n with
    | .mapping _ _ entries => do
      if !(← noDuplicates entries) then return (current, false)
      pure (← stringMapEntries element empty fuel entries current current.isEmpty, true)
    | .scalar .. => do
      let (tag, value) ← scalarOf n
      if isNullValue value then pure (∅, true)
      else mismatch n tag ("map[string]" ++ element.typeName) current
    | .sequence .. => mismatch n Tag.seq ("map[string]" ++ element.typeName) current
    | .alias .. => pure (current, false)

end Slot

/-- A field of a record: its key and how a node updates the record. -/
structure Field (σ : Type) where
  key : String
  read : Nat → Node → σ → Decode σ

/-- A field read by a slot, through a getter and a setter. -/
def Field.of {σ α : Type} (key : String) (slot : Slot α) (get : σ → α) (put : σ → α → σ) :
    Field σ where
  key := key
  read := fun fuel n record => do
    let (value, _) ← slot.read fuel n (get record)
    pure (put record value)

/-- How a record is read from a mapping. -/
structure Record (σ : Type) where
  typeName : String
  fields : List (Field σ)
  /-- Where keys that name no field go, with their dynamic values, if they are kept. -/
  extra : Option (σ → Bytes → Value → σ) := none

/-- Reads the entries of a mapping into a record, then merges what `<<` names. -/
def recordEntries {σ : Type} (r : Record σ) :
    Nat → List (Node × Node) → σ → Decode σ
  | 0, _, _ => exhausted
  | fuel + 1, entries, start => do
    let mut kept := (← get).merged
    modify fun s => { s with merged := none }
    let mut out := start
    let mut mergeNode : Option Node := none
    let mut done : List Bytes := []
    for (k, v) in entries do
      if k.isMergeKey then
        mergeNode := some v
        continue
      let (name, taken) ← Slot.text.read fuel k ""
      if !taken then continue
      if let some keys := kept then
        if keys.any (·.sameKey (.string name)) then continue
        kept := some (keys ++ [.string name])
      match r.fields.find? (fun field => Bytes.ofString field.key == name) with
      | some field =>
        if done.contains name then
          let problem := "line " ++ toString k.line ++ ": field " ++ field.key ++
            " already set in type " ++ r.typeName
          modify fun s => { s with problems := s.problems.push problem }
          continue
        done := name :: done
        out ← field.read fuel v out
      | none =>
        if let some put := r.extra then
          let (value, _) ← dynamicValue fuel v .null
          out := put out name value
    modify fun s => { s with merged := kept }
    let some m := mergeNode | return out
    let outer := (← get).merged
    if outer.isNone then
      let mut keys : List Value := []
      for (k, _) in entries do
        let (key, taken) ← dynamicValue fuel k .null
        if taken then
          if key.isCollection then unhashable key
          keys := addKey keys key
      modify fun s => { s with merged := some keys }
    let some sources := mergeSources m | mergeNeedsMaps
    for source in sources do
      if !isMergeable (← get).doc source then mergeNeedsMaps
      let (filled, _) ← enter source out fun target acc =>
        match target with
        | .mapping _ _ sourceEntries => do
          if !(← noDuplicates sourceEntries) then return (acc, false)
          pure (← recordEntries r fuel sourceEntries acc, true)
        | _ => pure (acc, false)
      out := filled
    if outer.isNone then modify fun s => { s with merged := none }
    pure out

namespace Slot

/-- A record read from a mapping by `r`; scalars other than null and sequences do not
fit. -/
def record {σ : Type} (r : Record σ) : Slot σ where
  typeName := r.typeName
  direct := fun fuel n current =>
    match n with
    | .mapping _ _ entries => do
      if !(← noDuplicates entries) then return (current, false)
      pure (← recordEntries r fuel entries current, true)
    | .scalar .. => do
      let (tag, value) ← scalarOf n
      if isNullValue value then pure (current, false) else mismatch n tag r.typeName current
    | .sequence .. => mismatch n Tag.seq r.typeName current
    | .alias .. => pure (current, false)

end Slot

namespace Document

/-- The depth allowance for decoding a document: enough for every path through it, with
each alias expanded at most once along a path. -/
def fuel (doc : Document) : Nat := (doc.size + 1) * (doc.size + 1)

/-- Decodes one node of a document into a slot from `start`, with nothing decoded
before; values of the wrong type make one fault listing them all. -/
def decodeNode {α : Type} (doc : Document) (slot : Slot α) (n : Node) (start : α) :
    Except Fault α := do
  let ((value, _), state) ← (slot.read doc.fuel n start).run { doc }
  if state.problems.isEmpty then pure value else throw (.mismatched state.problems.toList)

/-- Decodes a whole document into a slot from `start`. -/
def decode {α : Type} (doc : Document) (slot : Slot α) (start : α) : Except Fault α := do
  let ((value, _), state) ← (do count; slot.read doc.fuel doc.root start).run { doc }
  if state.problems.isEmpty then pure value else throw (.mismatched state.problems.toList)

end Document

/-- Reads YAML text into a slot from `start`: no document leaves `start`; unreadable
text is an `unreadable` fault with the reader's message. -/
def decodeText {α : Type} (text : String) (slot : Slot α) (start : α) : Except Fault α :=
  match Document.read? text with
  | .error e => .error (.unreadable e.message)
  | .ok none => .ok start
  | .ok (some doc) => doc.decode slot start

end LosslessBuffer.Yaml
