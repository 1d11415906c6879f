import LosslessBuffer.Yaml.Tree
/-!
# Writing a tree as YAML

The printer writes block collections, two spaces deeper per level:

* a mapping writes each entry on a line of its own, `key: value` for a scalar or an empty
  collection, `key:` followed by the deeper lines of any other collection;
* a sequence writes each item after `- `; an item that is a collection starts on the line
  of its dash, so `- - 1` and `- a: 1` are an item in an item and a mapping in an item;
* a sequence that is the value of a mapping key is indented below the key;
* empty collections are written `[]` and `{}`;
* a block writes an indicator line, `|` for a literal and `>` for a folded one, with the
  indentation `2` when the text starts with a blank or a line break, and `-` or `+` for
  a text without a final line break or with more than one, then the lines of the text
  below it.

Lines are never folded. The text ends with a line break.

The printer keeps a `Pen`: the text so far, its column, whether the last thing written
was white space, and whether the current line holds nothing but indentation. A new line
is started only when the column has gone past the indentation wanted, or has reached it
after something other than white space.
-/

set_option autoImplicit false

namespace LosslessBuffer.Yaml

/-- Where the printer stands. -/
structure Pen where
  text : String
  column : Nat
  /-- The last thing written was white space (or nothing). -/
  whitespace : Bool
  /-- The current line holds only indentation and indicators that open items. -/
  indention : Bool

namespace Pen

/-- The pen before anything is written. -/
def start : Pen := ⟨"", 0, true, true⟩

/-- Writes one character. -/
def put (p : Pen) (c : Char) : Pen :=
  { p with text := p.text.push c, column := p.column + 1 }

/-- Writes characters. -/
def putAll (p : Pen) (cs : List Char) : Pen :=
  cs.foldl put p

/-- Starts a new line. -/
def newline (p : Pen) : Pen :=
  { p with text := p.text.push '\n', column := 0, indention := true }

/-- Writes a line break of the text: a line feed starts a new line; any other break is
written as itself and counts as the end of a line. -/
def lineBreak (p : Pen) (c : Char) : Pen :=
  if c = '\n' then p.newline else { p.put c with column := 0, indention := true }

/-- Moves to column `n`, on a new line unless the current one is still open at or before
it. -/
def indent (p : Pen) (n : Nat) : Pen :=
  let p :=
    if !p.indention || p.column > n || (p.column = n && !p.whitespace) then p.newline else p
  { p.putAll (List.replicate (n - p.column) ' ') with whitespace := true }

/-- Writes an indicator, after a space when `spaceBefore` asks for one and none stands
there; `isSpace` says whether it counts as white space, `isIndention` whether the line
stays open for indentation. -/
def indicator (p : Pen) (mark : String) (spaceBefore isSpace isIndention : Bool) : Pen :=
  let p := if spaceBefore && !p.whitespace then p.put ' ' else p
  { p.putAll mark.toList with whitespace := isSpace, indention := p.indention && isIndention }

/-- Writes a plain text. -/
def plainText (p : Pen) (text : String) : Pen :=
  let p := if !text.isEmpty && !p.whitespace then p.put ' ' else p
  { p.putAll text.toList with whitespace := false, indention := false }

/-- Writes a text in double quotes. -/
def doubleQuoted (p : Pen) (text : String) : Pen :=
  let p := p.indicator "\"" true false false
  let p := text.toList.foldl
    (fun p c => if needsEscape c then p.putAll (escapeOf c) else p.put c) p
  p.indicator "\"" false false false

/-- Writes the characters of a single-quoted text whose lines sit at `indent`; `breaks`
says whether the last character was a line break. -/
def singleQuotedChars (indent : Nat) : Pen → Bool → List Char → Pen
  | p, _, [] => p
  | p, breaks, c :: rest =>
    if c = ' ' then singleQuotedChars indent (p.put c) breaks rest
    else if isBreak c then
      let p := if !breaks && c = '\n' then p.newline else p
      singleQuotedChars indent (p.lineBreak c) true rest
    else
      let p := if breaks then p.indent indent else p
      let p := if c = '\'' then p.put '\'' else p
      singleQuotedChars indent { p.put c with indention := false } false rest

/-- Writes a text in single quotes. -/
def singleQuoted (p : Pen) (indent : Nat) (text : String) : Pen :=
  let p := p.indicator "'" true false false
  (singleQuotedChars indent p false text.toList).indicator "'" false false false

/-- The lines of a literal block at `indent`; `breaks` says whether the last character
was a line break. -/
def literalLines (indent : Nat) : Pen → Bool → List Char → Pen
  | p, _, [] => p
  | p, breaks, c :: rest =>
    if isBreak c then literalLines indent (p.lineBreak c) true rest
    else
      let p := if breaks then p.indent indent else p
      literalLines indent { p.put c with indention := false } false rest

/-- The chomping indicator of a literal block: `-` without a final line break, `+` with
more than one (or a text that is one line break), none otherwise. -/
def chomping (text : List Char) : Option String :=
  match text.reverse with
  | [] => some "-"
  | [c] => if isBreak c then some "+" else some "-"
  | c :: d :: _ =>
    if !isBreak c then some "-" else if isBreak d then some "+" else none

/-- Writes the indicator line of a block: the mark, the indentation `2` when the text
starts with a blank or a line break, and the chomping indicator. -/
def blockHeader (p : Pen) (mark : String) (text : List Char) : Pen :=
  let p := p.indicator mark true false false
  let p := match text.head? with
    | some c => if c = ' ' || isBreak c then p.indicator "2" false false false else p
    | none => p
  let p := match chomping text with
    | some chomp => p.indicator chomp false false false
    | none => p
  { p.newline with whitespace := true }

/-- Writes a text as a literal block whose lines sit at `indent`. -/
def literal (p : Pen) (indent : Nat) (text : String) : Pen :=
  literalLines indent (p.blockHeader "|" text.toList) true text.toList

/-- The lines of a folded block at `indent`; `breaks` says whether the last character
was a line break, `leading` whether the current line starts with a blank. A line feed
after a line that does not start with a blank is written twice when `doubling` holds. -/
def foldedLines (indent : Nat) (doubling : Bool) : Pen → Bool → Bool → List Char → Pen
  | p, _, _, [] => p
  | p, breaks, leading, c :: rest =>
    if isBreak c then
      let p := if !breaks && !leading && c = '\n' && doubling then p.newline else p
      foldedLines indent doubling (p.lineBreak c) true leading rest
    else
      let moved := if breaks then p.indent indent else p
      let leading := if breaks then isBlank c else leading
      foldedLines indent doubling { moved.put c with indention := false } false leading rest

/-- Writes a text as a folded block whose lines sit at `indent`. Line feeds are doubled
unless the first character after the leading line breaks is a blank or a null. -/
def folded (p : Pen) (indent : Nat) (text : String) : Pen :=
  let cs := text.toList
  let doubling := match cs.dropWhile isBreak with
    | c :: _ => !(isBlank c || isEnd c)
    | [] => false
  foldedLines indent doubling (p.blockHeader ">" cs) true true cs

/-- Writes a scalar whose lines, if it has several, sit at `indent`; `key` says it is a
key on the line of its value. -/
def scalar (p : Pen) (indent : Nat) (key : Bool) (tag text : String) (asked : ScalarStyle) :
    Pen :=
  let p :=
    if tag.isEmpty then p
    else
      let p := if !p.whitespace then p.put ' ' else p
      { p.putAll tag.toList with whitespace := false, indention := false }
  match asked.settle (Allowance.of text) key text.isEmpty with
  | .plain => p.plainText text
  | .singleQuoted => p.singleQuoted indent text
  | .doubleQuoted => p.doubleQuoted text
  | .literal => p.literal indent text
  | .folded => p.folded indent text

/-- The indentation of what a collection at `outer` holds; the top level is at column
zero. -/
def deeper (outer : Option Nat) : Nat :=
  match outer with
  | some n => n + 2
  | none => 0

mutual
/-- Writes a tree that belongs to a collection at `outer` (`none` at the top level);
`key` says it is a key on the line of its value. -/
def node (p : Pen) (outer : Option Nat) (key : Bool) : Tree → Pen
  | .scalar tag text style => p.scalar ((outer.getD 0) + 2) key tag text style
  | .sequence [] => (p.indicator "[" true true false).indicator "]" false false false
  | .sequence (item :: rest) => p.items (deeper outer) (item :: rest)
  | .mapping [] => (p.indicator "\x7b" true true false).indicator "\x7d" false false false
  | .mapping (entry :: rest) => p.entries (deeper outer) (entry :: rest)

/-- Writes the items of a sequence whose dashes stand at `indent`. -/
def items (p : Pen) (indent : Nat) : List Tree → Pen
  | [] => p
  | item :: rest =>
    let p := (p.indent indent).indicator "-" true false true
    (p.node (some indent) false item).items indent rest

/-- Writes the entries of a mapping whose keys stand at `indent`. -/
def entries (p : Pen) (indent : Nat) : List (Tree × Tree) → Pen
  | [] => p
  | entry :: rest =>
    let p := p.indent indent
    let p :=
      if entry.1.isSimpleKey then
        (p.node (some indent) true entry.1).indicator ":" false false false
      else
        let p := (p.indicator "?" true false true).node (some indent) false entry.1
        (p.indent indent).indicator ":" true false true
    (p.node (some indent) false entry.2).entries indent rest
end

end Pen

/-- The YAML text of a tree. -/
def Tree.render (t : Tree) : String :=
  ((Pen.start.node none false t).indent 0).text

end LosslessBuffer.Yaml
