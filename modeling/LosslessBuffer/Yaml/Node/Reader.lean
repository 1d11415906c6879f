import LosslessBuffer.Yaml.Node
import LosslessBuffer.Yaml.Token.Lexer

/-!
# Reading a YAML document into nodes

`Node.read?` turns YAML text into the node of its first document, or `none` for a text
with no document. Tokens are taken from the lexer one at a time, and each construct
looks at the next token only where it must decide what follows; so a malformed token
ahead is reported exactly when reading reaches it, after any problem found earlier.

Rules that decide the result:

* A document may open with `%YAML 1.1` and `%TAG` directives and must then start with
  `---`; a document without directives may start directly with content. The handles
  `!` and `!!` (the core schema) are known unless a directive redefines them.
* In a block context a node may be a block sequence or mapping; in a flow context only
  flow collections and scalars. A sequence directly under a mapping key may omit its
  indentation.
* A missing key or value is an empty plain scalar placed at the indicator it follows.
* In a flow sequence, `? key : value` makes a one-entry mapping. When the key is missing
  the token after `?` is consumed as well.
* An anchor names the node it precedes as soon as that node begins, so an alias inside
  the node refers to the node itself; an alias to a name never anchored is an error.

Before reading, the text must hold only characters allowed in YAML, and a leading byte
order mark is dropped.
-/

set_option autoImplicit false

namespace LosslessBuffer.Yaml

/-- The state of reading a document: the lexer, the tag handles in force, and anchors. -/
structure Reader where
  lexer : Lexer
  handles : List (String × String) := []
  /-- Anchor names and their definition numbers, the latest first. -/
  anchors : List (String × Nat) := []
  /-- Anchored nodes by definition number; a node still being read holds a placeholder. -/
  anchored : Array Node := #[]
  aliases : Nat := 0

/-- Reading with a `Reader` that may stop with a problem. -/
abbrev Read := StateT Reader (Except ReadError)

/-- Whether a token is one of the given kinds of structure token. -/
def TokenKind.isOneOf (kind : TokenKind) (kinds : List TokenKind) : Bool :=
  kinds.contains kind

namespace Read

/-- Runs a lexer step on the reader's lexer. -/
def lex {α : Type} (step : Lex α) : Read α := fun r => do
  let (a, l) ← step.run r.lexer
  pure (a, { r with lexer := l })

/-- The next token, not taken. -/
def peek : Read Token := lex Lex.peekToken

/-- Takes the next token. -/
def skip : Read Unit := lex Lex.skipToken

/-- Stops with a problem of structure, found at `problemMark` inside the construct begun
at `contextMark`. -/
def fail {α : Type} (contextMark problemMark : Mark) (problem : String) : Read α :=
  throw { stage := .parsing, problem, problemMark, contextMark }

/-- The place of a mark, counted from one. -/
def placeOf (m : Mark) : Place := ⟨m.line + 1, m.column + 1⟩

/-- The tag of a scalar node: an explicit tag other than `!` in short form, else `!!str`
for a scalar that is not plain, `!!merge` for a plain `<<`, else the tag its text
resolves to. -/
def scalarTag (explicit text : String) (style : ScalarStyle) : String :=
  if explicit ≠ "" ∧ explicit ≠ "!" then Tag.short explicit
  else if style ≠ .plain then Tag.str
  else if text = "<<" then Tag.merge
  else (guess "" text).1

/-- The tag of a collection node: an explicit tag other than `!` in short form, else the
given default. -/
def collectionTag (explicit default : String) : String :=
  if explicit ≠ "" ∧ explicit ≠ "!" then Tag.short explicit else default

/-- The empty plain scalar at a mark. -/
def emptyScalar (m : Mark) : Node := .scalar (placeOf m) (scalarTag "" "" .plain) ""

/-- Starts an anchor's definition, returning its number. -/
def beginAnchor (name : Option String) : Read (Option Nat) :=
  match name with
  | none => pure none
  | some name => modifyGet fun r =>
    (some r.anchored.size,
      { r with anchors := (name, r.anchored.size) :: r.anchors, anchored := r.anchored.push default })

/-- Completes an anchor's definition with its node. -/
def endAnchor (number : Option Nat) (node : Node) : Read Node := do
  if let some k := number then
    modify fun r => { r with anchored := r.anchored.set! k node }
  pure node

/-- The alias of a name at a place: the latest anchor of that name, numbered as the next
occurrence; none for a name never anchored. -/
def aliasOf (place : Place) (name : String) : Read (Option Node) := do
  let r ← get
  match r.anchors.find? (·.1 == name) with
  | none => pure none
  | some (_, k) =>
    set { r with aliases := r.aliases + 1 }
    pure (some (.alias place name k r.aliases))

/-- The fuel-exhausted problem; reading never needs more steps than it is given. -/
def exhausted {α : Type} : Read α :=
  throw { stage := .parsing, problem := "exceeded max depth" }

mutual

/-- Reads one node; `block` allows block collections, `indentless` allows a sequence
without indentation. -/
def node (fuel : Nat) (block indentless : Bool) : Read Node :=
  match fuel with
  | 0 => exhausted
  | fuel + 1 => do
    let first ← peek
    if let .aliasName name := first.kind then
      skip
      match ← aliasOf (placeOf first.start) name with
      | none => throw { stage := .composing, problem := "unknown anchor '" ++ name ++ "' referenced" }
      | some target => return target
    let startMark := first.start
    let mut token := first
    let mut anchor : Option String := none
    let mut tagParts : Option (String × String × Mark) := none
    if let .anchor name := token.kind then
      anchor := some name
      skip
      token ← peek
      if let .tag handle suffix := token.kind then
        tagParts := some (handle, suffix, token.start)
        skip
        token ← peek
    else if let .tag handle suffix := token.kind then
      tagParts := some (handle, suffix, token.start)
      skip
      token ← peek
      if let .anchor name := token.kind then
        anchor := some name
        skip
        token ← peek
    let tag ← match tagParts with
      | none => pure ""
      | some (handle, suffix, tagMark) =>
        if handle = "" then pure suffix
        else match (← get).handles.find? (·.1 == handle) with
          | some (_, tagPrefix) => pure (tagPrefix ++ suffix)
          | none => fail startMark tagMark "found undefined tag handle"
    let place := placeOf startMark
    if indentless ∧ token.kind = .blockEntry then
      let number ← beginAnchor anchor
      let items ← indentlessSequence fuel
      endAnchor number (.sequence place (collectionTag tag Tag.seq) items)
    else match token.kind with
      | .scalar text style =>
        skip
        let number ← beginAnchor anchor
        endAnchor number (.scalar place (scalarTag tag text style) text)
      | .flowSequenceStart =>
        let number ← beginAnchor anchor
        let items ← flowSequence fuel
        endAnchor number (.sequence place (collectionTag tag Tag.seq) items)
      | .flowMappingStart =>
        let number ← beginAnchor anchor
        let entries ← flowMapping fuel
        endAnchor number (.mapping place (collectionTag tag Tag.map) entries)
      | .blockSequenceStart =>
        if block then
          let number ← beginAnchor anchor
          let items ← blockSequence fuel
          endAnchor number (.sequence place (collectionTag tag Tag.seq) items)
        else noContent startMark token anchor tag
      | .blockMappingStart =>
        if block then
          let number ← beginAnchor anchor
          let entries ← blockMapping fuel
          endAnchor number (.mapping place (collectionTag tag Tag.map) entries)
        else noContent startMark token anchor tag
      | _ => noContent startMark token anchor tag

/-- A node with no content: an empty scalar when an anchor or tag was given, else the
problem that content is missing. -/
def noContent (startMark : Mark) (token : Token) (anchor : Option String) (tag : String) :
    Read Node := do
  if anchor.isSome ∨ tag ≠ "" then
    let number ← beginAnchor anchor
    endAnchor number (.scalar (placeOf startMark) (scalarTag tag "" .plain) "")
  else
    fail startMark token.start "did not find expected node content"

/-- The entries of a block sequence, from its start token to its end token. -/
def blockSequence (fuel : Nat) : Read (List Node) :=
  match fuel with
  | 0 => exhausted
  | fuel + 1 => do
    let opening ← peek
    skip
    let mut items : Array Node := #[]
    for _ in [0:(← get).lexer.bound] do
      let token ← peek
      if token.kind = .blockEntry then
        skip
        let next ← peek
        if next.kind.isOneOf [.blockEntry, .blockEnd] then
          items := items.push (emptyScalar token.stop)
        else
          items := items.push (← node fuel true false)
      else if token.kind = .blockEnd then
        skip
        return items.toList
      else
        fail opening.start token.start "did not find expected '-' indicator"
    exhausted

/-- The entries of a sequence written without indentation under a mapping key. -/
def indentlessSequence (fuel : Nat) : Read (List Node) :=
  match fuel with
  | 0 => exhausted
  | fuel + 1 => do
    let mut items : Array Node := #[]
    for _ in [0:(← get).lexer.bound] do
      let token ← peek
      if token.kind = .blockEntry then
        skip
        let next ← peek
        if next.kind.isOneOf [.blockEntry, .key, .value, .blockEnd] then
          items := items.push (emptyScalar token.stop)
        else
          items := items.push (← node fuel true false)
      else
        return items.toList
    exhausted

/-- The entries of a block mapping, from its start token to its end token. -/
def blockMapping (fuel : Nat) : Read (List (Node × Node)) :=
  match fuel with
  | 0 => exhausted
  | fuel + 1 => do
    let opening ← peek
    skip
    let mut entries : Array (Node × Node) := #[]
    for _ in [0:(← get).lexer.bound] do
      let token ← peek
      if token.kind = .key then
        skip
        let next ← peek
        let key ← if next.kind.isOneOf [.key, .value, .blockEnd] then pure (emptyScalar token.stop)
          else node fuel true true
        let valueToken ← peek
        let value ← if valueToken.kind = .value then do
            skip
            let next ← peek
            if next.kind.isOneOf [.key, .value, .blockEnd] then pure (emptyScalar valueToken.stop)
            else node fuel true true
          else pure (emptyScalar valueToken.start)
        entries := entries.push (key, value)
      else if token.kind = .blockEnd then
        skip
        return entries.toList
      else
        fail opening.start token.start "did not find expected key"
    exhausted

/-- The entries of a flow sequence, from `[` to `]`. -/
def flowSequence (fuel : Nat) : Read (List Node) :=
  match fuel with
  | 0 => exhausted
  | fuel + 1 => do
    let opening ← peek
    skip
    let mut items : Array Node := #[]
    let mut first := true
    for _ in [0:(← get).lexer.bound] do
      let mut token ← peek
      if token.kind = .flowSequenceEnd then
        skip
        return items.toList
      if !first then
        if token.kind = .flowEntry then
          skip
          token ← peek
        else
          fail opening.start token.start "did not find expected ',' or ']'"
      first := false
      if token.kind = .key then
        skip
        let keyToken ← peek
        let key ← if keyToken.kind.isOneOf [.value, .flowEntry, .flowSequenceEnd] then do
            skip
            pure (emptyScalar keyToken.stop)
          else node fuel false false
        let valueToken ← peek
        let value ← if valueToken.kind = .value then do
            skip
            let next ← peek
            if next.kind.isOneOf [.flowEntry, .flowSequenceEnd] then pure (emptyScalar valueToken.start)
            else node fuel false false
          else pure (emptyScalar valueToken.start)
        let _ ← peek
        items := items.push (.mapping (placeOf token.start) Tag.map [(key, value)])
      else if token.kind = .flowSequenceEnd then
        skip
        return items.toList
      else
        items := items.push (← node fuel false false)
    exhausted

/-- The entries of a flow mapping, from `{` to `}`. -/
def flowMapping (fuel : Nat) : Read (List (Node × Node)) :=
  match fuel with
  | 0 => exhausted
  | fuel + 1 => do
    let opening ← peek
    skip
    let mut entries : Array (Node × Node) := #[]
    let mut first := true
    for _ in [0:(← get).lexer.bound] do
      let mut token ← peek
      if token.kind = .flowMappingEnd then
        skip
        return entries.toList
      if !first then
        if token.kind = .flowEntry then
          skip
          token ← peek
        else
          fail opening.start token.start "did not find expected ',' or '\x7d'"
      first := false
      if token.kind = .key then
        skip
        let keyToken ← peek
        let key ← if keyToken.kind.isOneOf [.value, .flowEntry, .flowMappingEnd] then
            pure (emptyScalar keyToken.start)
          else node fuel false false
        let valueToken ← peek
        let value ← if valueToken.kind = .value then do
            skip
            let next ← peek
            if next.kind.isOneOf [.flowEntry, .flowMappingEnd] then pure (emptyScalar next.start)
            else node fuel false false
          else pure (emptyScalar valueToken.start)
        entries := entries.push (key, value)
      else if token.kind = .flowMappingEnd then
        skip
        return entries.toList
      else
        let key ← node fuel false false
        let after ← peek
        entries := entries.push (key, emptyScalar after.start)
    exhausted

end

/-- The handles every document knows unless its directives redefine them. -/
def defaultHandles : List (String × String) := [("!", "!"), ("!!", Tag.corePrefix)]

/-- Reads the directives before a document, then adds the default handles. -/
def directives : Read Unit := do
  let mut version := false
  let mut declared : List (String × String) := []
  for _ in [0:(← get).lexer.bound] do
    let token ← peek
    match token.kind with
    | .versionDirective major minor =>
      if version then fail {} token.start "found duplicate %YAML directive"
      if major ≠ 1 ∨ minor ≠ 1 then fail {} token.start "found incompatible YAML document"
      version := true
    | .tagDirective handle tagPrefix =>
      if declared.any (·.1 == handle) then fail {} token.start "found duplicate %TAG directive"
      declared := declared ++ [(handle, tagPrefix)]
    | _ => break
    skip
  let missing := defaultHandles.filter fun d => !declared.any (·.1 == d.1)
  modify fun r => { r with handles := declared ++ missing }

/-- Reads the root node of the first document of a stream, `none` when the stream has
none. -/
def firstDocument : Read (Option Node) := do
  let _ ← peek
  skip
  let fuel := 4 * (← get).lexer.bound
  let token ← peek
  let content ← match token.kind with
    | .streamEnd => return none
    | .versionDirective .. | .tagDirective .. | .documentStart => do
      directives
      let start ← peek
      if start.kind ≠ .documentStart then fail {} start.start "did not find expected <document start>"
      skip
      let next ← peek
      match next.kind with
      | .versionDirective .. | .tagDirective .. | .documentStart | .documentEnd | .streamEnd =>
        pure (emptyScalar next.start)
      | _ => node fuel true false
    | _ => do
      directives
      node fuel true false
  let last ← peek
  if last.kind = .documentEnd then skip
  return some content

end Read

/-- Drops a leading byte order mark. -/
def dropByteOrderMark (text : String) : String :=
  match text.toList with
  | '﻿' :: rest => String.ofList rest
  | _ => text

/-- Reads the first document of a YAML text, `none` when the text holds no document. A
character that is not allowed stops the reading when the piece of text that holds it is
first needed (`readableChars`). -/
def Document.read? (text : String) : Except ReadError (Option Document) := do
  let body := dropByteOrderMark text
  let readable := readableChars body.toList (text.utf8ByteSize - body.utf8ByteSize)
  let (root, r) ← Read.firstDocument.run { lexer := Lexer.start body readable }
  -- every node takes a token, or is one of at most two empty scalars an indicator implies
  pure (root.map fun root => { root, anchored := r.anchored, size := 3 * r.lexer.taken + 3 })

end LosslessBuffer.Yaml
