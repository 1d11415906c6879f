/-!
# Characters of YAML text

The classes of characters that reading and writing YAML text look at: blanks, line
breaks, the end of the text (read as a NUL character), the characters of names and
numbers, the characters a document may hold, and those a written text may show as
themselves.
-/

set_option autoImplicit false

namespace LosslessBuffer.Yaml

/-- A space or a tab. -/
def isBlank (c : Char) : Bool := c = ' ' || c = '\t'

/-- A line break: carriage return, line feed, next line, line or paragraph separator. -/
def isBreak (c : Char) : Bool :=
  c = '\r' || c = '\n' || c = '\x85' || c = '\u2028' || c = '\u2029'

/-- The end of the text, read as a NUL character. -/
def isEnd (c : Char) : Bool := c = '\x00'

/-- A line break or the end of the text. -/
def isBreakOrEnd (c : Char) : Bool := isBreak c || isEnd c

/-- A blank, a line break or the end of the text. -/
def isBlankOrEnd (c : Char) : Bool := isBlank c || isBreakOrEnd c

/-- A character of an anchor, a directive or a tag handle: ASCII letters and digits,
`_` and `-`. -/
def isWordChar (c : Char) : Bool :=
  ('0' ≤ c && c ≤ '9') || ('a' ≤ c && c ≤ 'z') || ('A' ≤ c && c ≤ 'Z') || c = '_' || c = '-'

/-- An ASCII decimal digit. -/
def isDigitChar (c : Char) : Bool := '0' ≤ c && c ≤ '9'

/-- An ASCII hexadecimal digit. -/
def isHexChar (c : Char) : Bool :=
  isDigitChar c || ('a' ≤ c && c ≤ 'f') || ('A' ≤ c && c ≤ 'F')

/-- The value of a hexadecimal digit. -/
def hexValue (c : Char) : Nat :=
  if isDigitChar c then c.toNat - '0'.toNat
  else if 'a' ≤ c && c ≤ 'f' then c.toNat - 'a'.toNat + 10
  else c.toNat - 'A'.toNat + 10

/-- A character allowed in the text of a document: tab, line feed, carriage return,
the printable ASCII characters, next line, and the rest of Unicode but the surrogates,
the other C1 controls, U+FFFE and U+FFFF. -/
def isAllowed (c : Char) : Bool :=
  let n := c.toNat
  n = 0x09 || n = 0x0A || n = 0x0D || (0x20 ≤ n && n ≤ 0x7E) || n = 0x85 ||
    (0xA0 ≤ n && n ≤ 0xD7FF) || (0xE000 ≤ n && n ≤ 0xFFFD) || (0x10000 ≤ n && n ≤ 0x10FFFF)

/-- The size of the pieces in which text is read and checked, in bytes. -/
def readChunk : Nat := 512

/-- The byte offsets at which the characters of a text end, the text starting at byte
`offset`. -/
def endOffsets : List Char → Nat → List Nat
  | [], _ => []
  | c :: rest, offset => (offset + c.utf8Size) :: endOffsets rest (offset + c.utf8Size)

/-- How many characters of a text can be read before a character that is not allowed is
met. Text is read in pieces of `readChunk` bytes, a character cut by the end of a piece
going with the next one, and each piece is checked as a whole when the first character
in it is needed; so the characters before the piece that holds the first character not
allowed can be read, and all of them when there is none. `offset` is the number of bytes
before the first character, which count towards the first piece. -/
def readableChars (cs : List Char) (offset : Nat) : Option Nat :=
  let ends := endOffsets cs offset
  match (cs.zip ends).find? (fun p => !isAllowed p.1) with
  | none => none
  | some (_, stop) =>
    let pieceStart := (stop + readChunk - 1) / readChunk * readChunk - readChunk
    some (ends.findIdx (· > pieceStart))

/-- A character that may appear in written text as itself: the line feed, ASCII from
space to tilde, and U+00A0 to U+FFFD without the surrogates and the byte order mark. -/
def isPrintable (c : Char) : Bool :=
  let n := c.toNat
  n = 0x0A || (0x20 ≤ n && n ≤ 0x7E) || (0xA0 ≤ n && n ≤ 0xD7FF) ||
    (0xE000 ≤ n && n ≤ 0xFFFD && n ≠ 0xFEFF)

end LosslessBuffer.Yaml
