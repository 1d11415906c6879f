import LosslessBuffer.Text.Category
/-!
# Quoted text

A string written between double quotes so that it can be read back: a quote or a
backslash gets a backslash before it, a graphic character stands as itself, the seven
control characters with a letter escape use it (`\n`, `\t`, ...), and every other
character is written by its code point in lowercase hexadecimal: `\xHH` below the space
and for delete, `\uHHHH` up to 0xFFFF, `\UHHHHHHHH` above.

A single byte of text is shown between single quotes (`quoteByte` of `leadByte`).
-/

set_option autoImplicit false

namespace LosslessBuffer.Text

/-- The lowercase hexadecimal digit of a value below 16. -/
def hexDigit (n : Nat) : Char :=
  if n < 10 then Char.ofNat (48 + n) else Char.ofNat (87 + n)

/-- Exactly `width` lowercase hexadecimal digits of `value`, most significant first. -/
def hexDigits (value width : Nat) : List Char :=
  (List.range width).reverse.map fun position => hexDigit (value / Nat.pow 16 position % 16)

/-- How one character is written inside double quotes. -/
def escape (c : Char) : List Char :=
  if c = '"' ∨ c = '\\' then ['\\', c]
  else if isGraphic c then [c]
  else if c = '\x07' then ['\\', 'a']
  else if c = '\x08' then ['\\', 'b']
  else if c = '\x0c' then ['\\', 'f']
  else if c = '\n' then ['\\', 'n']
  else if c = '\r' then ['\\', 'r']
  else if c = '\t' then ['\\', 't']
  else if c = '\x0b' then ['\\', 'v']
  else if c.toNat < 0x20 ∨ c.toNat = 0x7F then '\\' :: 'x' :: hexDigits c.toNat 2
  else if c.toNat < 0x10000 then '\\' :: 'u' :: hexDigits c.toNat 4
  else '\\' :: 'U' :: hexDigits c.toNat 8

/-- The characters of `s` between double quotes, each written by `escape`. -/
def quoteChars (s : List Char) : List Char :=
  '"' :: s.flatMap escape ++ ['"']

/-- The text of `s` between double quotes, each character written by `escape`. -/
def quote (s : String) : String :=
  String.ofList (quoteChars s.toList)

/-- The character whose code is the first byte of a character's UTF-8 encoding: the
character itself below 0x80. Messages about a single byte of text show it so. -/
def leadByte (c : Char) : Char :=
  match c.toString.toUTF8.toList with
  | b :: _ => Char.ofNat b.toNat
  | [] => c

/-- A character between single quotes: a single quote gets a backslash, a double quote
stands as itself, and any other character is written by `escape`. -/
def quoteByte (c : Char) : String :=
  if c = '\'' then "'\\''"
  else if c = '"' then "'\"'"
  else "'" ++ String.ofList (escape c) ++ "'"

end LosslessBuffer.Text
