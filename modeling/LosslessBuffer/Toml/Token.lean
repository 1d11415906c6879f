import LosslessBuffer.Text.Quoted
import LosslessBuffer.Text.Category
/-!
# TOML tokens

The pieces a TOML document is read from: strings (basic `"..."` with escapes, literal
`'...'`, and both in multi-line form), keys (bare, quoted, or dotted), numbers and
date-times. A number is kept as written (`Token.integer`, `Token.float`) and converted
only when its expression has been read whole; a date-time is kept as written, with the
kind of date-time its characters show (`MomentKind`).

Each reader takes the text from where the piece starts and gives the piece and the text
after it, or the message of the first problem met.
-/

set_option autoImplicit false

namespace LosslessBuffer.Toml

/-- Which parts a date-time has: a date and a time with a zone, a date and a time, a
date alone, or a time alone. -/
inductive MomentKind where
  | offsetDateTime
  | localDateTime
  | localDate
  | localTime
  deriving DecidableEq, Repr, Inhabited

/-- A value as read, numbers not yet converted. -/
inductive Token where
  | string (value : String)
  /-- An integer, as written. -/
  | integer (text : String)
  /-- A float, as written. -/
  | float (text : String)
  | bool (value : Bool)
  /-- A date, a time or both, as written, with the kind its characters show. -/
  | dateTime (text : String) (kind : MomentKind)
  | array (items : List Token)
  /-- An inline table: dotted keys and values in order. -/
  | inlineTable (entries : List (List String × Token))
  deriving Inhabited

/-- One line of a document. -/
inductive Expression where
  | keyValue (key : List String) (value : Token)
  | table (key : List String)
  | arrayTable (key : List String)

/-- What reading a part of the text gives: the part and the text after it, or the
message of a problem. -/
abbrev Reading (α : Type) := Except String (α × List Char)

/-! ## Characters -/

/-- Whether a character is white space inside a line. -/
def isSpace (c : Char) : Bool := c = ' ' || c = '\t'

/-- The text after leading white space. -/
def skipSpace (cs : List Char) : List Char := cs.dropWhile isSpace

/-- Whether a character may stand in a bare key. -/
def isBareKeyChar (c : Char) : Bool :=
  ('A' ≤ c && c ≤ 'Z') || ('a' ≤ c && c ≤ 'z') || ('0' ≤ c && c ≤ '9') || c = '-' || c = '_'

/-- Whether a character may stand in a string as itself: a tab, or any character but a
control character. -/
def isStringChar (c : Char) : Bool :=
  c = '\t' || (c.toNat ≥ 0x20 && c.toNat ≠ 0x7F)

/-- A character as `U+XXXX 'c'`, the quoted part only for a graphic character; a
character above ASCII is shown by the first byte of its encoding. -/
def codeText (c : Char) : String :=
  let b := Text.leadByte c
  let hex := String.ofList ((Text.hexDigits b.toNat 4).map Char.toUpper)
  "U+" ++ hex ++ (if Text.isGraphic b then " '" ++ b.toString ++ "'" else "")

/-- Whether a text starts with a word. -/
def startsWith (cs : List Char) (word : String) : Bool :=
  cs.take word.length = word.toList

/-! ## Strings -/

/-- The value of a hexadecimal digit. -/
def hexValue? (c : Char) : Option Nat :=
  if '0' ≤ c && c ≤ '9' then some (c.toNat - '0'.toNat)
  else if 'a' ≤ c && c ≤ 'f' then some (c.toNat - 'a'.toNat + 10)
  else if 'A' ≤ c && c ≤ 'F' then some (c.toNat - 'A'.toNat + 10)
  else none

/-- The character of the `width` hexadecimal digits of a `\u` or `\U` escape. The text
after the escape must hold `width` bytes; as a digit takes one byte, the first `width`
characters are the digits when they all are digits. -/
def unicodeEscape (width : Nat) (cs : List Char) : Reading Char :=
  let digits := cs.take width
  let available := cs.foldl (fun total c => total + c.utf8Size) 0
  if available < width then
    .error ("unicode point needs " ++ toString width ++ " character, not " ++
      toString available)
  else
    match digits.mapM hexValue? with
    | none => .error "non-hex character"
    | some values =>
      let code := values.foldl (fun acc d => acc * 16 + d) 0
      if code > 0x10FFFF || (0xD800 ≤ code && code < 0xE000) then
        .error "escape sequence is invalid Unicode code point"
      else .ok (Char.ofNat code, cs.drop width)

/-- The character a one-letter escape stands for. -/
def simpleEscape? (c : Char) : Option Char :=
  match c with
  | '"' => some '"'
  | '\\' => some '\\'
  | 'b' => some '\x08'
  | 'e' => some '\x1b'
  | 'f' => some '\x0c'
  | 'n' => some '\n'
  | 'r' => some '\r'
  | 't' => some '\t'
  | _ => none

/-- Whether a text starts with white space and then a line break. -/
def endsLine (cs : List Char) : Bool :=
  match skipSpace cs with
  | '\n' :: _ => true
  | '\r' :: '\n' :: _ => true
  | _ => false

/-- Decodes the body of a basic string that holds an escape. In a multi-line string
(`multiline`), line breaks stand as themselves, and a backslash that ends a line drops
the line break and all white space after it. The digits of a `\u` or `\U` escape are
looked for in the rest of the body and then in the closing delimiter. Each step takes a
character, so the length of the body is fuel enough. -/
def decodeBasic (multiline : Bool) : Nat → List Char → List Char → Except String String
  | _, acc, [] => .ok (String.ofList acc.reverse)
  | 0, _, _ :: _ => .error "string too long"
  | fuel + 1, acc, '\\' :: rest =>
    if multiline && endsLine rest then
      decodeBasic multiline fuel acc (rest.dropWhile fun c => isSpace c || c = '\n' || c = '\r')
    else
      match rest with
      | [] => .error "need a character after \\"
      | e :: after =>
        if e = 'u' || e = 'U' then
          let width := if e = 'u' then 4 else 8
          let closing := List.replicate (if multiline then 3 else 1) '"'
          match unicodeEscape width (after ++ closing) with
          | .ok (c, _) => decodeBasic multiline fuel (c :: acc) (after.drop width)
          | .error problem => .error problem
        else
          match simpleEscape? e with
          | some c => decodeBasic multiline fuel (c :: acc) after
          | none => .error ("invalid escaped character " ++ codeText e)
  | fuel + 1, acc, c :: rest =>
    if isStringChar c || (multiline && (c = '\n' || c = '\r')) then
      decodeBasic multiline fuel (c :: acc) rest
    else .error ("invalid character " ++ codeText c)

/-- The value of the body of a basic string: without an escape the body is the value,
and a character that must be escaped makes it invalid text; with one, it is decoded. -/
def basicValue (multiline : Bool) (body : List Char) : Except String String :=
  if body.contains '\\' then decodeBasic multiline (body.length + 1) [] body
  else if body.all fun c => isStringChar c || (multiline && (c = '\n' || c = '\r')) then
    .ok (String.ofList body)
  else .error "invalid UTF-8"

/-- The body of a one-line basic string after its opening quote, and the text after its
closing quote. -/
def scanBasic : List Char → List Char → Reading (List Char)
  | _, [] => .error "basic string not terminated by \""
  | acc, '"' :: rest => .ok (acc.reverse, rest)
  | _, '\n' :: _ | _, '\r' :: _ => .error "basic strings cannot have new lines"
  | acc, '\\' :: rest =>
    match rest with
    | [] => .error "need a character after \\"
    | e :: more => scanBasic (e :: '\\' :: acc) more
  | acc, c :: rest => scanBasic (c :: acc) rest

/-- Reads a one-line basic string after its opening quote. -/
def readBasic (cs : List Char) : Except String (String × List Char) := do
  let (body, rest) ← scanBasic [] cs
  let value ← basicValue false body
  return (value, rest)

/-- Reads a one-line literal string after its opening apostrophe. -/
def readLiteral : List Char → List Char → Reading String
  | _, [] => .error "unterminated literal string"
  | acc, '\'' :: rest => .ok (String.ofList acc.reverse, rest)
  | _, '\n' :: _ | _, '\r' :: _ => .error "literal strings cannot have new lines"
  | acc, c :: rest => if isStringChar c then readLiteral (c :: acc) rest else .error "invalid character"

/-- The message of a multi-line string without its closing delimiter. -/
def unterminatedMultiline (escapes : Bool) : String :=
  if escapes then "multiline basic string not terminated by \"\"\""
  else "multiline literal string not terminated by " ++ String.ofList ['\'', '\'', '\'']

/-- The message of a multi-line string with too many quotes at its end. -/
def tooManyQuotes (escapes : Bool) : String :=
  if escapes then "\"\"\" not allowed in multiline basic string"
  else String.ofList ['\'', '\'', '\''] ++ " not allowed in multiline literal string"

/-- The body of a multi-line string after its opening delimiter (three `quote`s), and
the text after the closing one. Up to two more quotes before the closing delimiter
belong to the body. A carriage return must be followed by a line feed, and in a literal
string (no `escapes`) every other character must be one a string may hold. -/
def scanMultiline (quote : Char) (escapes : Bool) : List Char → List Char → Reading (List Char)
  | _, [] => .error (unterminatedMultiline escapes)
  | acc, c :: rest =>
    if c = quote && rest.take 2 = [quote, quote] then
      let after := rest.drop 2
      let extra := (after.takeWhile (· = quote)).length
      if extra > 2 then .error (tooManyQuotes escapes)
      else .ok ((List.replicate extra quote ++ acc).reverse, after.drop extra)
    else if escapes && c = '\\' then
      match rest with
      | [] => .error "need a character after \\"
      | e :: more => scanMultiline quote escapes (e :: c :: acc) more
    else if c = '\r' then
      match rest with
      | '\n' :: more => scanMultiline quote escapes ('\n' :: c :: acc) more
      | _ => .error "need a \\n after \\r"
    else if escapes || isStringChar c || c = '\n' then scanMultiline quote escapes (c :: acc) rest
    else .error "invalid character"

/-- A body without the line break that directly follows the opening delimiter. -/
def dropFirstBreak : List Char → List Char
  | '\n' :: rest => rest
  | '\r' :: '\n' :: rest => rest
  | cs => cs

/-- Reads a multi-line basic string after its opening delimiter. -/
def readMultilineBasic (cs : List Char) : Except String (String × List Char) := do
  let (body, rest) ← scanMultiline '"' true [] cs
  let value ← basicValue true (dropFirstBreak body)
  return (value, rest)

/-- Reads a multi-line literal string after its opening delimiter. -/
def readMultilineLiteral (cs : List Char) : Except String (String × List Char) := do
  let (body, rest) ← scanMultiline '\'' false [] cs
  return (String.ofList (dropFirstBreak body), rest)

/-! ## Keys -/

/-- Reads one part of a key: bare, or a one-line string. -/
def readSimpleKey (cs : List Char) : Reading String :=
  match cs with
  | [] => .error "expected key but found none"
  | '\'' :: rest => readLiteral [] rest
  | '"' :: rest => readBasic rest
  | c :: _ =>
    if isBareKeyChar c then .ok (String.ofList (cs.takeWhile isBareKeyChar), cs.dropWhile isBareKeyChar)
    else .error ("invalid character at start of key: " ++ (Text.leadByte c).toString)

/-- Reads the parts of a dotted key after its first part. -/
def readKeyParts (acc : List String) (cs : List Char) : Nat → Except String (List String × List Char)
  | 0 => .ok (acc, cs)
  | fuel + 1 =>
    match skipSpace cs with
    | '.' :: rest => do
      let (part, after) ← readSimpleKey (skipSpace rest)
      readKeyParts (acc ++ [part]) after fuel
    | _ => .ok (acc, cs)

/-- Reads a key, dotted or not. -/
def readKey (cs : List Char) : Except String (List String × List Char) := do
  let (first, rest) ← readSimpleKey cs
  readKeyParts [first] rest (rest.length + 1)

/-- Takes an expected character. -/
def expectChar (c : Char) (cs : List Char) : Except String (List Char) :=
  match cs with
  | [] => .error ("expected character " ++ c.toString ++ " but the document ended here")
  | d :: rest => if d = c then .ok rest else .error ("expected character " ++ c.toString)

/-! ## Numbers and date-times -/

/-- Whether a text starts with a date or a time: two digits and a colon, or four digits
and a dash. -/
def looksLikeDateTime (cs : List Char) : Bool :=
  let head := cs.take 5
  ((head.take 2).all Char.isDigit && head[2]? = some ':') ||
    ((head.take 4).all Char.isDigit && head[4]? = some '-')

/-- What the characters of a date-time have shown so far: a dash (a date), a `T`, `:`,
`.` or space (a time), and a zone (`Z`, `+`, or a dash after the eighth character). -/
structure MomentMarks where
  date : Bool := false
  time : Bool := false
  zone : Bool := false

/-- The kind of date-time that marks show. -/
def MomentMarks.kind (m : MomentMarks) : MomentKind :=
  if m.time then
    if m.date then (if m.zone then .offsetDateTime else .localDateTime) else .localTime
  else .localDate

/-- The characters of a date-time from position `i` on, the text after them, and the
marks seen: digits and `Tt:.+-Zz`. One space may stand in it when a digit follows; the
space, that digit and the character after it are taken without a look. -/
def dateTimeChars (i : Nat) (seenSpace : Bool) (marks : MomentMarks) :
    List Char → List Char × List Char × MomentMarks
  | [] => ([], [], marks)
  | c :: rest =>
    let more (marks : MomentMarks) : List Char × List Char × MomentMarks :=
      let (taken, after, marks) := dateTimeChars (i + 1) seenSpace marks rest
      (c :: taken, after, marks)
    if c.isDigit then more marks
    else if c = '-' then more { marks with date := true, zone := marks.zone || i ≥ 8 }
    else if c = 'T' || c = 't' || c = ':' || c = '.' then more { marks with time := true }
    else if c = '+' || c = 'Z' || c = 'z' then more { marks with zone := true }
    else if c = ' ' && !seenSpace then
      match rest with
      | d :: after =>
        if d.isDigit then
          match after with
          | e :: after =>
            let (taken, after, marks) :=
              dateTimeChars (i + 3) true { marks with time := true } after
            (c :: d :: e :: taken, after, marks)
          | [] => ([c, d], [], { marks with time := true })
        else ([], c :: rest, marks)
      | [] => ([], [c], marks)
    else ([], c :: rest, marks)

/-- Scans the characters of a decimal number. -/
def scanDecimal (acc : List Char) (isFloat : Bool) : List Char → Reading Token
  | c :: rest =>
    if c.isDigit || c = '+' || c = '-' || c = '_' then scanDecimal (c :: acc) isFloat rest
    else if c = '.' || c = 'e' || c = 'E' then scanDecimal (c :: acc) true rest
    else if c = 'i' || c = 'n' then
      let word := if c = 'i' then "inf" else "nan"
      if (c :: rest).take 3 = word.toList then
        .ok (.float (String.ofList (acc.reverse ++ word.toList)), rest.drop 2)
      else .error ("unexpected character " ++ Text.quoteByte c ++ " while scanning for a number")
    else if acc.isEmpty then .error "incomplete number"
    else .ok (if isFloat then .float (String.ofList acc.reverse) else .integer (String.ofList acc.reverse), c :: rest)
  | [] =>
    if acc.isEmpty then .error "incomplete number"
    else .ok (if isFloat then .float (String.ofList acc.reverse) else .integer (String.ofList acc.reverse), [])

/-- Reads an integer or a float: a `0x`, `0o` or `0b` integer, a lone leading zero, or
digits, signs, underscores, points and exponents, with `inf` or `nan` after them. -/
def readNumber (cs : List Char) : Reading Token :=
  match cs with
  | '0' :: b :: rest =>
    if b = 'x' || b = 'o' || b = 'b' then
      if rest.isEmpty then scanDecimal [] false cs
      else
        let valid (c : Char) : Bool :=
          if b = 'x' then (hexValue? c).isSome || c = '_'
          else if b = 'o' then ('0' ≤ c && c ≤ '7') || c = '_'
          else c = '0' || c = '1' || c = '_'
        .ok (.integer (String.ofList ('0' :: b :: rest.takeWhile valid)), rest.dropWhile valid)
    else if b ≠ '.' && b ≠ 'e' && b ≠ 'E' && !rest.isEmpty then
      .ok (.integer "0", b :: rest)
    else scanDecimal [] false cs
  | _ => scanDecimal [] false cs

/-- Reads a number or a date-time. -/
def readNumberOrDateTime (cs : List Char) : Reading Token :=
  match cs with
  | 'i' :: _ =>
    if cs.take 3 = ['i', 'n', 'f'] then .ok (.float "inf", cs.drop 3) else .error "expected 'inf'"
  | 'n' :: _ =>
    if cs.take 3 = ['n', 'a', 'n'] then .ok (.float "nan", cs.drop 3) else .error "expected 'nan'"
  | '+' :: _ | '-' :: _ => readNumber cs
  | _ =>
    if cs.length ≥ 3 && looksLikeDateTime cs then
      let (taken, rest, marks) := dateTimeChars 0 false {} cs
      .ok (.dateTime (String.ofList taken) marks.kind, rest)
    else readNumber cs

end LosslessBuffer.Toml
