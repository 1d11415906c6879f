import LosslessBuffer.Yaml.Token
/-!
# Splitting YAML text into tokens

The lexer turns text into tokens on demand, keeping a short queue of tokens ahead of the
reader. Most of YAML's structure is decided here:

* Indentation opens and closes block collections: a deeper key or entry opens one
  (`blockMappingStart`, `blockSequenceStart`), a shallower line closes them
  (`blockEnd`).
* A key written without `?` is known to be a key only when the `:` after it is seen, so
  the position of every possible such key is remembered; when its `:` arrives, a `key`
  token (and maybe a `blockMappingStart`) is put into the queue before it. A key must
  stay on one line and within 1024 characters; a key that had to be one and is not
  becomes the problem "could not find expected ':'".
* Scalars are read in their five styles, with escapes, line folding and chomping.

The queue is kept at least three tokens ahead of the reader, and further while its first
token may still turn out to be a key; a problem in the text is reported when the lexer
reaches it, which may be before the reader has used every token in front of it.
-/

set_option autoImplicit false

namespace LosslessBuffer.Yaml

/-- A position where a key written without `?` may begin. -/
structure SimpleKey where
  /-- The position can still be a key. -/
  possible : Bool := false
  /-- The position must be a key (it is at the indentation of a block mapping). -/
  required : Bool := false
  tokenNumber : Nat := 0
  mark : Mark := {}
  deriving Repr, Inhabited

/-- The state of the lexer. -/
structure Lexer where
  input : Array Char
  mark : Mark := {}
  /-- Line breaks read since the last character that is not a blank. -/
  newlines : Nat := 0
  started : Bool := false
  /-- Tokens produced and not yet taken, first the next one. -/
  queue : List Token := []
  taken : Nat := 0
  /-- Whether the first queued token is ready to be taken. -/
  available : Bool := false
  /-- The current indentation column, -1 outside any block collection. -/
  indent : Int := -1
  /-- Enclosing indentation columns, innermost first. -/
  indents : List Int := []
  keyAllowed : Bool := false
  /-- Possible keys, one per flow level, innermost first. -/
  keys : List SimpleKey := []
  flowLevel : Nat := 0
  /-- How many characters can be read; reading further meets a character that is not
  allowed. -/
  readable : Option Nat := none
  deriving Repr, Inhabited

namespace Lexer

/-- A lexer at the start of a text, of which `readable` characters can be read. -/
def start (text : String) (readable : Option Nat := none) : Lexer :=
  { input := text.toList.toArray, readable }

/-- The character `k` places ahead, NUL past the end. -/
def charAt (l : Lexer) (k : Nat) : Char := l.input.getD (l.mark.index + k) '\x00'

/-- Moves past one character on the current line. -/
def advance (l : Lexer) : Lexer :=
  { l with
    mark := { l.mark with index := l.mark.index + 1, column := l.mark.column + 1 }
    newlines := if isBlank (l.charAt 0) then l.newlines else 0 }

/-- Moves past one line break, a carriage return and line feed counting as one. -/
def advanceLine (l : Lexer) : Lexer :=
  if l.charAt 0 = '\r' ∧ l.charAt 1 = '\n' then
    { l with mark := { index := l.mark.index + 2, line := l.mark.line + 1, column := 0 }
             newlines := l.newlines + 1 }
  else if isBreak (l.charAt 0) then
    { l with mark := { index := l.mark.index + 1, line := l.mark.line + 1, column := 0 }
             newlines := l.newlines + 1 }
  else l

/-- A bound on the steps of any loop over the text. -/
def bound (l : Lexer) : Nat := l.input.size + 8

end Lexer

/-- A computation of the lexer that may find a problem. -/
abbrev Lex := StateT Lexer (Except ReadError)

namespace Lex

/-- Makes sure that the next `n` characters can be read: the piece of text that holds
them has been checked. -/
def ensure (n : Nat) : Lex Unit := do
  let l ← get
  match l.readable with
  | some limit =>
    if l.mark.index + n > limit then
      throw { stage := .decoding, problem := "control characters are not allowed" }
  | none => pure ()

/-- The character `k` places ahead. -/
def peek (k : Nat) : Lex Char := do
  ensure (k + 1)
  return (← get).charAt k

/-- The current position. -/
def here : Lex Mark := return (← get).mark

/-- Moves past one character. -/
def skip : Lex Unit := modify Lexer.advance

/-- Moves past one line break. -/
def skipLine : Lex Unit := modify Lexer.advanceLine

/-- Moves past `n` characters. -/
def skipN (n : Nat) : Lex Unit := do
  for _ in [0:n] do skip

/-- Appends the current character and moves past it. -/
def readChar (acc : Array Char) : Lex (Array Char) := do
  let c ← peek 0
  skip
  return acc.push c

/-- Appends a line break, read as a line feed unless it is a line or paragraph
separator, and moves past it; does nothing off a line break. -/
def readLine (acc : Array Char) : Lex (Array Char) := do
  let c ← peek 0
  if c = '\u2028' ∨ c = '\u2029' then
    skipLine
    return acc.push c
  else if isBreak c then
    skipLine
    return acc.push '\n'
  else return acc

/-- Stops with a problem found while splitting text into tokens. -/
def fail {α : Type} (contextMark : Mark) (problem : String) : Lex α := do
  throw { stage := .scanning, problem, problemMark := (← here), contextMark }

/-- Moves up to the next line break or the end. -/
def skipToBreak : Lex Unit := do
  for _ in [0:(← get).bound] do
    if isBreakOrEnd (← peek 0) then break
    skip

/-- Moves past blanks. -/
def skipBlanks : Lex Unit := do
  for _ in [0:(← get).bound] do
    if isBlank (← peek 0) then skip else break

/-- Appends a token to the queue. -/
def push (t : Token) : Lex Unit :=
  modify fun l => { l with queue := l.queue ++ [t] }

/-- Puts a token into the queue at a place counted from its front. -/
def insertAt (place : Nat) (t : Token) : Lex Unit :=
  modify fun l => { l with queue := l.queue.take place ++ t :: l.queue.drop place }

/-- Sets whether a key may start here. -/
def allowKey (allowed : Bool) : Lex Unit :=
  modify fun l => { l with keyAllowed := allowed }

/-! ## Possible keys -/

/-- The possible key of the current flow level. -/
def topKey : Lex SimpleKey := return (← get).keys.headD {}

/-- Replaces the possible key of the current flow level. -/
def setTopKey (k : SimpleKey) : Lex Unit :=
  modify fun l => { l with keys := k :: l.keys.tail }

/-- Whether the possible key at a depth of the stack can still be a key; a key that has
left its line or gone 1024 characters without its `:` can no longer be one, which is a
problem when it had to be one. -/
def keyStillValid (depth : Nat) : Lex Bool := do
  let l ← get
  match l.keys[depth]? with
  | none => return false
  | some k =>
    if !k.possible then return false
    if k.mark.line < l.mark.line ∨ k.mark.index + 1024 < l.mark.index then
      if k.required then fail k.mark "could not find expected ':'"
      modify fun l => { l with keys := l.keys.set depth { k with possible := false } }
      return false
    return true

/-- Forgets the possible key of the current flow level; a key that had to be one is a
problem. -/
def removeKey : Lex Unit := do
  let k ← topKey
  if k.possible then
    if k.required then fail k.mark "could not find expected ':'"
    setTopKey { k with possible := false }

/-- Remembers the current position as a possible key, when a key may start here. -/
def saveKey : Lex Unit := do
  let l ← get
  let required := l.flowLevel = 0 ∧ l.indent = (l.mark.column : Int)
  if l.keyAllowed then
    let k : SimpleKey :=
      { possible := true, required, tokenNumber := l.taken + l.queue.length, mark := l.mark }
    removeKey
    setTopKey k

/-- The deepest nesting of flow collections, and of block collections, that a text may
have. -/
def maxDepth : Nat := 10000

/-- The problem of a collection nested deeper than `maxDepth`. -/
def tooDeep : String := "exceeded max depth of " ++ toString maxDepth

/-- Enters a flow collection; one nested deeper than `maxDepth` is a problem. -/
def increaseFlowLevel : Lex Unit := do
  modify fun l => { l with keys := { mark := l.mark } :: l.keys, flowLevel := l.flowLevel + 1 }
  let l ← get
  if l.flowLevel > maxDepth then fail l.mark tooDeep

/-- Leaves a flow collection. -/
def decreaseFlowLevel : Lex Unit :=
  modify fun l =>
    if l.flowLevel > 0 then { l with flowLevel := l.flowLevel - 1, keys := l.keys.tail } else l

/-! ## Indentation -/

/-- Opens a block collection at a deeper column, putting its start token at the end of
the queue or at the place of a given token number; one nested deeper than `maxDepth` is a
problem. -/
def rollIndent (column : Int) (number : Option Nat) (kind : TokenKind) (mark : Mark) :
    Lex Unit := do
  let l ← get
  if l.flowLevel = 0 ∧ l.indent < column then
    set { l with indents := l.indent :: l.indents, indent := column }
    if l.indents.length + 1 > maxDepth then fail (← topKey).mark tooDeep
    match number with
    | none => push ⟨kind, mark, mark⟩
    | some n => insertAt (n - l.taken) ⟨kind, mark, mark⟩

/-- Closes the block collections deeper than a column. -/
def unrollIndent (column : Int) : Lex Unit := do
  if (← get).flowLevel > 0 then return
  for _ in [0:(← get).indents.length + 1] do
    let l ← get
    if l.indent > column then
      push ⟨.blockEnd, l.mark, l.mark⟩
      modify fun l => { l with indent := l.indents.headD (-1), indents := l.indents.tail }
    else break

/-! ## Blanks and comments -/

/-- The number of blanks and line breaks ahead, counting at most 512. -/
def blanksAhead (l : Lexer) : Nat :=
  ((List.range 512).find? fun k =>
    let c := l.charAt k
    !(isBlank c || isBreak c)).getD 511

/-- The offset of the next `#` beyond blanks and line breaks, looking at most 512
characters ahead, if there is one. -/
def commentAhead (l : Lexer) : Option Nat :=
  ((List.range 512).find? fun k =>
    let c := l.charAt k
    !(isBlank c || isBreak c)).bind fun k => if l.charAt k = '#' then some k else none

/-- Moves past a comment and the comment lines after it (blank lines may come between),
stopping at the end of the last one. -/
def skipComments : Lex Unit := do
  skipToBreak
  for _ in [0:(← get).bound] do
    let ahead := commentAhead (← get)
    ensure (blanksAhead (← get) + 1)
    match ahead with
    | none => break
    | some k =>
      for _ in [0:k] do
        if isBreak (← peek 0) then skipLine else skip
      skipToBreak

/-- Moves past blanks, comments and line breaks up to the next token. -/
def skipToToken : Lex Unit := do
  for _ in [0:(← get).bound] do
    ensure 1
    let l ← get
    if l.mark.column = 0 ∧ l.charAt 0 = '\uFEFF' then skip
    for _ in [0:(← get).bound] do
      ensure 1
      let l ← get
      let c := l.charAt 0
      if c = ' ' ∨ ((l.flowLevel > 0 ∨ !l.keyAllowed) ∧ c = '\t') then skip else break
    if (← peek 0) = '#' then skipComments
    if isBreak (← peek 0) then
      skipLine
      if (← get).flowLevel = 0 then allowKey true
    else break

/-- Moves past blanks and a comment that follow a token on its line. -/
def skipLineComment : Lex Unit := do
  let l ← get
  if l.newlines > 0 then return
  let offset := (List.range 512).find? fun k => !isBlank (l.charAt k)
  ensure (offset.getD 511 + 1)
  match offset with
  | some k =>
    if l.charAt k = '#' then
      skipN k
      skipToBreak
  | none => pure ()

/-! ## Directives, anchors and tags -/

/-- A run of word characters. -/
def readWord (acc : Array Char) : Lex (Array Char) := do
  let mut s := acc
  for _ in [0:(← get).bound] do
    if isWordChar (← peek 0) then s ← readChar s else break
  return s

/-- A one- or two-digit version number. -/
def versionNumber (start : Mark) : Lex Nat := do
  let mut value := 0
  let mut length := 0
  for _ in [0:(← get).bound] do
    let c ← peek 0
    if !isDigitChar c then break
    length := length + 1
    if length > 2 then fail start "found extremely long version number"
    value := value * 10 + (c.toNat - '0'.toNat)
    skip
  if length = 0 then fail start "did not find expected version number"
  return value

/-- A tag handle: `!`, `!!` or `!word!`; in a directive it must end in `!`. -/
def tagHandle (directive : Bool) (start : Mark) : Lex String := do
  if (← peek 0) ≠ '!' then fail start "did not find expected '!'"
  let mut s ← readChar #[]
  s ← readWord s
  if (← peek 0) = '!' then s ← readChar s
  else if directive ∧ s.toList ≠ ['!'] then fail start "did not find expected '!'"
  return String.ofList s.toList

/-- The number of bytes of a UTF-8 sequence from its first byte, zero if it cannot
start one. -/
def utf8Width (octet : Nat) : Nat :=
  if octet < 0x80 then 1
  else if octet / 0x20 = 0x06 then 2
  else if octet / 0x10 = 0x0E then 3
  else if octet / 0x08 = 0x1E then 4
  else 0

/-- The character encoded by a UTF-8 byte sequence, or the replacement character. -/
def decodeUtf8 (octets : List Nat) : Char :=
  match String.fromUTF8? (ByteArray.mk (octets.map UInt8.ofNat).toArray) with
  | some s => s.toList.headD '\uFFFD'
  | none => '\uFFFD'

/-- One character written as `%XX` escapes of its UTF-8 bytes. -/
def uriEscape (start : Mark) : Lex Char := do
  let mut octets : List Nat := []
  let mut width := 1024
  for _ in [0:5] do
    if width = 0 then break
    let c0 ← peek 0
    let c1 ← peek 1
    let c2 ← peek 2
    if !(c0 = '%' ∧ isHexChar c1 ∧ isHexChar c2) then
      fail start "did not find URI escaped octet"
    let octet := hexValue c1 * 16 + hexValue c2
    if width = 1024 then
      width := utf8Width octet
      if width = 0 then fail start "found an incorrect leading UTF-8 octet"
    else if octet / 0x40 ≠ 0x02 then fail start "found an incorrect trailing UTF-8 octet"
    octets := octets ++ [octet]
    skipN 3
    width := width - 1
  return decodeUtf8 octets

/-- Whether a character may appear in a tag URI. -/
def isUriChar (c : Char) : Bool :=
  isWordChar c || ";/?:@&=+$,.!~*'()[]%".toList.contains c

/-- The URI part of a tag, after the given head less its first character. -/
def tagUri (head : String) (start : Mark) : Lex String := do
  let mut s : Array Char := (head.toList.drop 1).toArray
  let mut hasTag := head != ""
  for _ in [0:(← get).bound] do
    let c ← peek 0
    if !isUriChar c then break
    if c = '%' then s := s.push (← uriEscape start)
    else s ← readChar s
    hasTag := true
  if !hasTag then fail start "did not find expected tag URI"
  return String.ofList s.toList

/-- A `%YAML` or `%TAG` directive with the rest of its line. -/
def directive : Lex Token := do
  let start ← here
  skip
  let name ← readWord #[]
  if name.isEmpty then fail start "could not find expected directive name"
  if !isBlankOrEnd (← peek 0) then fail start "found unexpected non-alphabetical character"
  let kind ← if name.toList = "YAML".toList then do
      skipBlanks
      let major ← versionNumber start
      if (← peek 0) ≠ '.' then fail start "did not find expected digit or '.' character"
      skip
      let minor ← versionNumber start
      pure (TokenKind.versionDirective major minor)
    else if name.toList = "TAG".toList then do
      skipBlanks
      let handle ← tagHandle true start
      if !isBlank (← peek 0) then fail start "did not find expected whitespace"
      skipBlanks
      let tagPrefix ← tagUri "" start
      if !isBlankOrEnd (← peek 0) then fail start "did not find expected whitespace or line break"
      pure (TokenKind.tagDirective handle tagPrefix)
    else fail start "found unknown directive name"
  let stop ← here
  skipBlanks
  if (← peek 0) = '#' then skipToBreak
  if !isBreakOrEnd (← peek 0) then fail start "did not find expected comment or line break"
  if isBreak (← peek 0) then skipLine
  return ⟨kind, start, stop⟩

/-- An anchor `&name` or an alias `*name`. -/
def anchorOrAlias (isAlias : Bool) : Lex Token := do
  let start ← here
  skip
  let name ← readWord #[]
  let stop ← here
  let c ← peek 0
  if name.isEmpty ∨ !(isBlankOrEnd c || "?:,]\x7d%@\x60".toList.contains c) then
    fail start "did not find expected alphabetic or numeric character"
  let text := String.ofList name.toList
  return ⟨if isAlias then .aliasName text else .anchor text, start, stop⟩

/-- A tag: `!<uri>`, `!handle!suffix`, `!suffix` or a lone `!`. -/
def tagToken : Lex Token := do
  let start ← here
  let (handle, suffix) ← if (← peek 1) = '<' then do
      skipN 2
      let suffix ← tagUri "" start
      if (← peek 0) ≠ '>' then fail start "did not find the expected '>'"
      skip
      pure ("", suffix)
    else do
      let handle ← tagHandle false start
      let chars := handle.toList
      if chars.length > 1 ∧ chars.head? = some '!' ∧ chars.getLast? = some '!' then
        pure (handle, ← tagUri "" start)
      else
        let suffix ← tagUri handle start
        if suffix = "" then pure ("", "!") else pure ("!", suffix)
  let c ← peek 0
  if !isBlankOrEnd c then
    if (← get).flowLevel = 0 ∨ c ≠ ',' then
      fail start "did not find expected whitespace or line break"
  return ⟨.tag handle suffix, start, ← here⟩

/-! ## Scalars -/

/-- Whether the text at the position is a document marker `---` or `...` at the start of
a line followed by a blank, a break or the end. -/
def atDocumentMarker : Lex Bool := do
  ensure 4
  let l ← get
  let c0 := l.charAt 0
  return l.mark.column = 0 ∧ (c0 = '-' ∨ c0 = '.') ∧ l.charAt 1 = c0 ∧ l.charAt 2 = c0 ∧
    isBlankOrEnd (l.charAt 3)

/-- The indentation spaces and empty lines before the content of a block scalar; fixes
the indentation from the deepest such line when it is not yet known. -/
def blockBreaks (indent : Int) (breaks : Array Char) (start : Mark) :
    Lex (Int × Array Char × Mark) := do
  let mut stop ← here
  let mut maxIndent : Int := 0
  let mut acc := breaks
  for _ in [0:(← get).bound] do
    for _ in [0:(← get).bound] do
      ensure 1
      let l ← get
      if (indent = 0 ∨ (l.mark.column : Int) < indent) ∧ l.charAt 0 = ' ' then skip else break
    ensure 2
    let l ← get
    if (l.mark.column : Int) > maxIndent then maxIndent := l.mark.column
    if (indent = 0 ∨ (l.mark.column : Int) < indent) ∧ l.charAt 0 = '\t' then
      fail start "found a tab character where an indentation space is expected"
    if !isBreak (l.charAt 0) then break
    acc ← readLine acc
    stop ← here
  let mut result := indent
  if result = 0 then
    let l ← get
    result := max (max maxIndent (l.indent + 1)) 1
  return (result, acc, stop)

/-- A literal (`|`) or folded (`>`) block scalar. -/
def blockScalar (literal : Bool) : Lex Token := do
  let start ← here
  skip
  let mut chomping : Int := 0
  let mut increment : Nat := 0
  let c ← peek 0
  if c = '+' ∨ c = '-' then
    chomping := if c = '+' then 1 else -1
    skip
    let d ← peek 0
    if isDigitChar d then
      if d = '0' then fail start "found an indentation indicator equal to 0"
      increment := d.toNat - '0'.toNat
      skip
  else if isDigitChar c then
    if c = '0' then fail start "found an indentation indicator equal to 0"
    increment := c.toNat - '0'.toNat
    skip
    let d ← peek 0
    if d = '+' ∨ d = '-' then
      chomping := if d = '+' then 1 else -1
      skip
  skipBlanks
  if (← peek 0) = '#' then skipToBreak
  if !isBreakOrEnd (← peek 0) then fail start "did not find expected comment or line break"
  if isBreak (← peek 0) then skipLine
  let current := (← get).indent
  let mut indent : Int :=
    if increment > 0 then (if current ≥ 0 then current + increment else increment) else 0
  let (i0, t0, s0) ← blockBreaks indent #[] start
  indent := i0
  let mut trailing := t0
  let mut stop := s0
  let mut s : Array Char := #[]
  let mut leadingBreak : Array Char := #[]
  let mut leadingBlank := false
  for _ in [0:(← get).bound] do
    ensure 1
    let l ← get
    if !((l.mark.column : Int) = indent ∧ !isEnd (l.charAt 0)) then break
    let trailingBlank := isBlank (l.charAt 0)
    if !literal ∧ !leadingBlank ∧ !trailingBlank ∧ leadingBreak.toList.head? = some '\n' then
      if trailing.isEmpty then s := s.push ' '
    else s := s ++ leadingBreak
    leadingBreak := #[]
    s := s ++ trailing
    trailing := #[]
    leadingBlank := isBlank (l.charAt 0)
    for _ in [0:(← get).bound] do
      if isBreakOrEnd (← peek 0) then break
      s ← readChar s
    leadingBreak ← readLine leadingBreak
    let (i1, t1, s1) ← blockBreaks indent trailing start
    indent := i1
    trailing := t1
    stop := s1
  if chomping ≠ -1 then s := s ++ leadingBreak
  if chomping = 1 then s := s ++ trailing
  return ⟨.scalar (String.ofList s.toList) (if literal then .literal else .folded), start, stop⟩

/-- The character a double-quoted escape letter stands for, or the number of hex digits
of a code escape. -/
def escapeOf (c : Char) : Option (Sum Char Nat) :=
  match c with
  | '0' => some (.inl '\x00')
  | 'a' => some (.inl '\x07')
  | 'b' => some (.inl '\x08')
  | 't' => some (.inl '\t')
  | '\t' => some (.inl '\t')
  | 'n' => some (.inl '\n')
  | 'v' => some (.inl '\x0b')
  | 'f' => some (.inl '\x0c')
  | 'r' => some (.inl '\r')
  | 'e' => some (.inl '\x1b')
  | ' ' => some (.inl ' ')
  | '"' => some (.inl '"')
  | '\'' => some (.inl '\'')
  | '\\' => some (.inl '\\')
  | 'N' => some (.inl '\x85')
  | '_' => some (.inl '\xa0')
  | 'L' => some (.inl '\u2028')
  | 'P' => some (.inl '\u2029')
  | 'x' => some (.inr 2)
  | 'u' => some (.inr 4)
  | 'U' => some (.inr 8)
  | _ => none

/-- A single- or double-quoted scalar. -/
def quotedScalar (single : Bool) : Lex Token := do
  let start ← here
  skip
  let mut s : Array Char := #[]
  let mut leadingBreak : Array Char := #[]
  let mut trailingBreaks : Array Char := #[]
  let mut whitespaces : Array Char := #[]
  for _ in [0:(← get).bound] do
    if ← atDocumentMarker then fail start "found unexpected document indicator"
    if isEnd (← peek 0) then fail start "found unexpected end of stream"
    let mut leadingBlanks := false
    for _ in [0:(← get).bound] do
      let c ← peek 0
      if isBlankOrEnd c then break
      let next ← peek 1
      if single ∧ c = '\'' ∧ next = '\'' then
        s := s.push '\''
        skipN 2
      else if single ∧ c = '\'' then break
      else if !single ∧ c = '"' then break
      else if !single ∧ c = '\\' ∧ isBreak next then
        skip
        skipLine
        leadingBlanks := true
        break
      else if !single ∧ c = '\\' then
        match escapeOf next with
        | none => fail start "found unknown escape character"
        | some (.inl e) =>
          s := s.push e
          skipN 2
        | some (.inr length) =>
          skipN 2
          let mut value := 0
          for k in [0:length] do
            let h ← peek k
            if !isHexChar h then fail start "did not find expected hexdecimal number"
            value := value * 16 + hexValue h
          if (0xD800 ≤ value ∧ value ≤ 0xDFFF) ∨ value > 0x10FFFF then
            fail start "found invalid Unicode character escape code"
          s := s.push (Char.ofNat value)
          skipN length
      else s ← readChar s
    let c ← peek 0
    if (single ∧ c = '\'') ∨ (!single ∧ c = '"') then break
    for _ in [0:(← get).bound] do
      let c ← peek 0
      if isBlank c then
        if !leadingBlanks then whitespaces ← readChar whitespaces else skip
      else if isBreak c then
        if !leadingBlanks then
          whitespaces := #[]
          leadingBreak ← readLine leadingBreak
          leadingBlanks := true
        else trailingBreaks ← readLine trailingBreaks
      else break
    if leadingBlanks then
      if leadingBreak.toList.head? = some '\n' then
        if trailingBreaks.isEmpty then s := s.push ' ' else s := s ++ trailingBreaks
      else s := s ++ leadingBreak ++ trailingBreaks
      trailingBreaks := #[]
      leadingBreak := #[]
    else
      s := s ++ whitespaces
      whitespaces := #[]
  skip
  let stop ← here
  return ⟨.scalar (String.ofList s.toList) (if single then .singleQuoted else .doubleQuoted),
    start, stop⟩

/-- A plain scalar, which may run over several lines while they are indented deeper
than the enclosing block collection. -/
def plainScalar : Lex Token := do
  let start ← here
  let indent := (← get).indent + 1
  let mut stop := start
  let mut s : Array Char := #[]
  let mut leadingBreak : Array Char := #[]
  let mut trailingBreaks : Array Char := #[]
  let mut whitespaces : Array Char := #[]
  let mut leadingBlanks := false
  for _ in [0:(← get).bound] do
    if ← atDocumentMarker then break
    if (← peek 0) = '#' then break
    for _ in [0:(← get).bound] do
      ensure 2
      let l ← get
      let c := l.charAt 0
      if isBlankOrEnd c then break
      let next := l.charAt 1
      if l.flowLevel > 0 ∧ c = ':' ∧ ",?[]{}".toList.contains next then
        fail start "found unexpected ':'"
      if (c = ':' ∧ isBlankOrEnd next) ∨ (l.flowLevel > 0 ∧ ",[]{}".toList.contains c) then break
      if leadingBlanks ∨ !whitespaces.isEmpty then
        if leadingBlanks then
          if leadingBreak.toList.head? = some '\n' then
            if trailingBreaks.isEmpty then s := s.push ' ' else s := s ++ trailingBreaks
          else s := s ++ leadingBreak ++ trailingBreaks
          trailingBreaks := #[]
          leadingBreak := #[]
          leadingBlanks := false
        else
          s := s ++ whitespaces
          whitespaces := #[]
      s ← readChar s
      stop ← here
    let c ← peek 0
    if !(isBlank c ∨ isBreak c) then break
    for _ in [0:(← get).bound] do
      ensure 2
      let l ← get
      let c := l.charAt 0
      if isBlank c then
        if leadingBlanks ∧ (l.mark.column : Int) < indent ∧ c = '\t' then
          fail start "found a tab character that violates indentation"
        if !leadingBlanks then whitespaces ← readChar whitespaces else skip
      else if isBreak c then
        if !leadingBlanks then
          whitespaces := #[]
          leadingBreak ← readLine leadingBreak
          leadingBlanks := true
        else trailingBreaks ← readLine trailingBreaks
      else break
    let l ← get
    if l.flowLevel = 0 ∧ (l.mark.column : Int) < indent then break
  if leadingBlanks then allowKey true
  return ⟨.scalar (String.ofList s.toList) .plain, start, stop⟩

/-! ## Tokens -/

/-- A token of one or more indicator characters. -/
def indicator (kind : TokenKind) (length : Nat) : Lex Unit := do
  let start ← here
  skipN length
  push ⟨kind, start, ← here⟩

/-- Produces the stream-start token. -/
def streamStart : Lex Unit := do
  modify fun l => { l with indent := -1, keys := [{}], keyAllowed := true, started := true }
  let m ← here
  push ⟨.streamStart, m, m⟩

/-- Produces the stream-end token, closing every open block collection. -/
def streamEnd : Lex Unit := do
  modify fun l =>
    if l.mark.column ≠ 0 then { l with mark := { l.mark with column := 0, line := l.mark.line + 1 } }
    else l
  unrollIndent (-1)
  removeKey
  allowKey false
  let m ← here
  push ⟨.streamEnd, m, m⟩

/-- Produces the token of a value indicator `:`, first completing the key before it. -/
def valueIndicator : Lex Unit := do
  let k ← topKey
  if ← keyStillValid 0 then
    insertAt (k.tokenNumber - (← get).taken) ⟨.key, k.mark, k.mark⟩
    rollIndent k.mark.column (some k.tokenNumber) .blockMappingStart k.mark
    setTopKey { (← topKey) with possible := false }
    allowKey false
  else
    let l ← get
    if l.flowLevel = 0 then
      if !l.keyAllowed then fail l.mark "mapping values are not allowed in this context"
      rollIndent l.mark.column none .blockMappingStart l.mark
    allowKey (l.flowLevel = 0)
  indicator .value 1

/-- Whether a character can start a plain scalar here. -/
def startsPlain (l : Lexer) : Bool :=
  let c := l.charAt 0
  let next := l.charAt 1
  !(isBlankOrEnd c || "-?:,[]{}#&*!|>'\"%@`".toList.contains c) ||
    (c = '-' && !isBlank next) ||
    (l.flowLevel = 0 && (c = '?' || c = ':') && !isBlankOrEnd next)

/-- Produces the tokens that follow the current position: usually one, with block
starts and ends and inserted keys as indentation and indicators require. -/
def fetchNext : Lex Unit := do
  ensure 1
  if !(← get).started then
    streamStart
    return
  skipToToken
  unrollIndent (← here).column
  ensure 4
  let l ← get
  let c := l.charAt 0
  let atLineStart := l.mark.column = 0
  if isEnd c then
    streamEnd
    return
  if atLineStart ∧ c = '%' then
    unrollIndent (-1)
    removeKey
    allowKey false
    push (← directive)
    return
  if ← atDocumentMarker then
    unrollIndent (-1)
    removeKey
    allowKey false
    indicator (if c = '-' then .documentStart else .documentEnd) 3
    return
  if c = '[' ∨ c = '{' then
    saveKey
    increaseFlowLevel
    allowKey true
    indicator (if c = '[' then .flowSequenceStart else .flowMappingStart) 1
  else if c = ']' ∨ c = '}' then
    removeKey
    decreaseFlowLevel
    allowKey false
    indicator (if c = ']' then .flowSequenceEnd else .flowMappingEnd) 1
  else if c = ',' then
    removeKey
    allowKey true
    indicator .flowEntry 1
  else if c = '-' ∧ isBlankOrEnd (l.charAt 1) then
    if l.flowLevel = 0 then
      if !l.keyAllowed then fail l.mark "block sequence entries are not allowed in this context"
      rollIndent l.mark.column none .blockSequenceStart l.mark
    removeKey
    allowKey true
    indicator .blockEntry 1
  else if c = '?' ∧ (l.flowLevel > 0 ∨ isBlankOrEnd (l.charAt 1)) then
    if l.flowLevel = 0 then
      if !l.keyAllowed then fail l.mark "mapping keys are not allowed in this context"
      rollIndent l.mark.column none .blockMappingStart l.mark
    removeKey
    allowKey (l.flowLevel = 0)
    indicator .key 1
  else if c = ':' ∧ (l.flowLevel > 0 ∨ isBlankOrEnd (l.charAt 1)) then
    valueIndicator
  else if c = '*' ∨ c = '&' then
    saveKey
    allowKey false
    push (← anchorOrAlias (c = '*'))
  else if c = '!' then
    saveKey
    allowKey false
    push (← tagToken)
  else if (c = '|' ∨ c = '>') ∧ l.flowLevel = 0 then
    removeKey
    allowKey true
    push (← blockScalar (c = '|'))
  else if c = '\'' ∨ c = '"' then
    saveKey
    allowKey false
    push (← quotedScalar (c = '\''))
  else if startsPlain l then
    saveKey
    allowKey false
    push (← plainScalar)
  else fail l.mark "found character that cannot start any token"
  match (← get).queue.getLast? with
  | some t => if t.kind ≠ .blockEntry then skipLineComment
  | none => pure ()

/-- Fills the queue so that its first token is settled: at least three tokens ahead,
and more while the first may still become a key. -/
def fetchMore : Lex Unit := do
  for _ in [0:(← get).bound] do
    let l ← get
    if l.queue.length > 2 then
      match l.keys.findIdx? (fun k => k.possible && k.tokenNumber == l.taken) with
      | none => break
      | some depth => if !(← keyStillValid depth) then break
    fetchNext
  modify fun l => { l with available := true }

/-- The next token, without taking it. -/
def peekToken : Lex Token := do
  if !(← get).available then fetchMore
  return (← get).queue.headD ⟨.streamEnd, {}, {}⟩

/-- Takes the next token. -/
def skipToken : Lex Unit :=
  modify fun l => { l with available := false, taken := l.taken + 1, queue := l.queue.tail }

end Lex

end LosslessBuffer.Yaml
