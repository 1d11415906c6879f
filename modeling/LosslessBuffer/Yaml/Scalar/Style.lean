import LosslessBuffer.Yaml.Character
/-!
# How a scalar may be written

A scalar is written in one of five styles: plain, in single quotes, in double quotes, or
as a literal or folded block. A writer asks for one (`ScalarStyle`); the characters of the text
decide which of the styles they allow (`Allowance.of`), and a style that is not allowed
falls back to a quoted one (`ScalarStyle.settle`): plain to single quotes, single quotes
and blocks to double quotes. Double quotes can write every text.

The rules on the characters:

* plain text may not start or end with a blank or a line break, hold a line break, a
  tab or a character that is not printable, nor an indicator where it would be read as
  one (a leading `#`, `&`, `*`, `!`, `|`, `>`, a quote, `%`, `@`, a bracket or brace, a
  `-`, `?` or `:` followed by a blank, a `: ` or ` #` anywhere, or a leading `---` or
  `...`);
* single quotes may not hold a tab, a character that is not printable, or a blank
  directly before or after a line break;
* a block may not end with a blank, hold a character that is not printable, or a blank
  directly before a line break.

Printable are the line feed, ASCII from space to tilde and the code points from U+00A0 to
U+FFFD, less the surrogates and the byte order mark; line breaks are CR, LF, NEL and the
Unicode line and paragraph separators.
-/

set_option autoImplicit false

namespace LosslessBuffer.Yaml

/-- The styles a scalar is written in. -/
inductive ScalarStyle where
  | plain
  /-- Between single quotes, a quote doubled. -/
  | singleQuoted
  | doubleQuoted
  /-- A literal block: the lines of the text below an indicator line. -/
  | literal
  /-- A folded block: lines below an indicator line, a single line break read as a
  space. -/
  | folded
  deriving Repr, Inhabited, DecidableEq

/-- What the characters of a scalar allow. -/
structure Allowance where
  multiline : Bool
  plain : Bool
  singleQuoted : Bool
  block : Bool
  deriving DecidableEq, Repr

/-- Whether a character at the start of a text reads as an indicator, given whether a
blank or the end follows it. -/
def leadingIndicator (c : Char) (blankAfter : Bool) : Bool :=
  "#,[]\x7b\x7d&*!|>'\"%@\x60".toList.contains c ||
    ((c = '?' || c = ':' || c = '-') && blankAfter)

/-- Whether a character after the start reads as an indicator, given whether a blank
stands before it and whether a blank or the end follows it. -/
def innerIndicator (c : Char) (blankBefore blankAfter : Bool) : Bool :=
  (c = ':' && blankAfter) || (c = '#' && blankBefore)

/-- Whether some character of a text, after its first, reads as an indicator. `before` is
the character in front of the list. -/
def hasInnerIndicator (before : Char) : List Char → Bool
  | [] => false
  | c :: rest =>
    let blankBefore := isBlankOrEnd before
    let blankAfter := match rest with
      | [] => true
      | next :: _ => isBlank next
    innerIndicator c blankBefore blankAfter || hasInnerIndicator c rest

/-- Whether two neighbours satisfy a relation somewhere along a list. -/
def hasNeighbours (related : Char → Char → Bool) : List Char → Bool
  | a :: b :: rest => related a b || hasNeighbours related (b :: rest)
  | _ => false

/-- Whether a text reads as an indicator somewhere if written plain. -/
def hasIndicator (text : List Char) : Bool :=
  match text with
  | [] => false
  | c :: rest =>
    let blankAfter := match rest with
      | [] => true
      | next :: _ => isBlank next
    text.take 3 = ['-', '-', '-'] || text.take 3 = ['.', '.', '.'] ||
      leadingIndicator c blankAfter || hasInnerIndicator c rest

/-- What the characters of a text allow. An empty text may be plain or single-quoted,
but is no block. -/
def Allowance.of (text : String) : Allowance :=
  let cs := text.toList
  match cs.head?, cs.getLast? with
  | some first, some last =>
    let lineBreaks := cs.any isBreak
    let tabs := cs.any (· = '\t')
    let special := cs.any fun c => c ≠ '\t' && !isPrintable c
    let edges := first = ' ' || isBreak first || last = ' ' || isBreak last
    let breakSpace := hasNeighbours (fun a b => isBreak a && b = ' ') cs
    let spaceBreak := hasNeighbours (fun a b => a = ' ' && isBreak b) cs
    { multiline := lineBreaks
      plain := !(edges || breakSpace || spaceBreak || tabs || special || lineBreaks ||
        hasIndicator cs)
      singleQuoted := !(breakSpace || spaceBreak || tabs || special)
      block := !(last = ' ' || spaceBreak || special) }
  | _, _ => { multiline := false, plain := true, singleQuoted := true, block := false }

/-- The style a scalar is written in, from the style asked for, what its text allows,
and whether it stands as a key on the line of its value. An empty key is quoted. -/
def ScalarStyle.settle (asked : ScalarStyle) (allowed : Allowance) (key empty : Bool) :
    ScalarStyle :=
  let style := if key && allowed.multiline then .doubleQuoted else asked
  let style :=
    if style = .plain && (!allowed.plain || (empty && key)) then .singleQuoted else style
  let style := if style = .singleQuoted && !allowed.singleQuoted then .doubleQuoted else style
  if (style = .literal || style = .folded) && (!allowed.block || key) then .doubleQuoted
  else style

/-- Whether a character is written as an escape in double quotes. -/
def needsEscape (c : Char) : Bool :=
  !isPrintable c || isBreak c || c = '"' || c = '\\'

/-- An upper-case hexadecimal digit. -/
def upperHexDigit (n : Nat) : Char :=
  if n < 10 then Char.ofNat ('0'.toNat + n) else Char.ofNat ('A'.toNat + n - 10)

/-- The escape of a character in double quotes: a letter for the common controls,
otherwise `\x`, `\u` or `\U` with two, four or eight hexadecimal digits. -/
def escapeOf (c : Char) : List Char :=
  let n := c.toNat
  let named : Option Char :=
    if n = 0 then some '0' else if n = 7 then some 'a' else if n = 8 then some 'b'
    else if n = 9 then some 't' else if n = 0x0A then some 'n' else if n = 0x0B then some 'v'
    else if n = 0x0C then some 'f' else if n = 0x0D then some 'r' else if n = 0x1B then some 'e'
    else if n = 0x22 then some '"' else if n = 0x5C then some '\\'
    else if n = 0x85 then some 'N' else if n = 0xA0 then some '_'
    else if n = 0x2028 then some 'L' else if n = 0x2029 then some 'P' else none
  match named with
  | some letter => ['\\', letter]
  | none =>
    let (mark, width) : Char × Nat :=
      if n ≤ 0xFF then ('x', 2) else if n ≤ 0xFFFF then ('u', 4) else ('U', 8)
    '\\' :: mark :: (List.range width).reverse.map fun k => upperHexDigit (n / Nat.pow 16 k % 16)

end LosslessBuffer.Yaml
