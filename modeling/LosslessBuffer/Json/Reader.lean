import LosslessBuffer.Text.Quoted
/-!
# Reading JSON text

`read` turns JSON text into an `Element`: null, a boolean, a number (kept as its text), a
string, an array or an object with its members in order.

The text is checked from its first character to its last, and the first character that
no JSON text can continue with is reported, quoted whole, with what was being read there
(`Problem.message`):

* `looking for beginning of value`, `looking for beginning of object key string`;
* `after object key`, `after object key:value pair`, `after array element`,
  `after top-level value`;
* `in string` for a control character, and `in numeric literal` anywhere in a number;
* `in literal true (expecting 'r')` and the like for the letters of `true`, `false` and
  `null`.

An escape that is not one is reported with the bytes it spans (`Problem.badEscape`): the
backslash and the next byte, or for `\u` the backslash and the five bytes after it, or
what is left of the text when that is shorter and cannot be the start of a `\u` escape.
Containers nest at most ten thousand deep (`exceeded max depth`), and a text that ends
inside a value is unfinished.

Escapes in strings are decoded; `\u` escapes of a surrogate pair make one character, and
a surrogate that is not part of a pair becomes U+FFFD.
-/

set_option autoImplicit false

namespace LosslessBuffer.Json

/-- A JSON value. -/
inductive Element where
  | null
  | bool (value : Bool)
  /-- A number, as written. -/
  | number (text : String)
  /-- A string, escapes decoded. -/
  | string (value : String)
  | array (items : List Element)
  /-- An object, members in the order written. -/
  | object (members : List (String × Element))
  deriving Repr, Inhabited

/-- The kind of an element, as type errors name it. -/
def Element.kind : Element → String
  | .null => "null"
  | .bool _ => "bool"
  | .number _ => "number"
  | .string _ => "string"
  | .array _ => "array"
  | .object _ => "object"

/-- Why a text is not JSON. -/
inductive Problem where
  /-- A character that cannot stand where it stands; the context says what was being
  read. -/
  | unexpected (c : Char) (context : String)
  /-- An escape in a string that is not one: the characters it spans, and the bytes of
  a character it cuts. -/
  | badEscape (spanned : List Char) (cut : List Nat)
  | tooDeep
  | unfinished
  deriving Repr, DecidableEq

/-- Whether the text of a bad escape is shown quoted: when it holds a backquote, a
replacement character, white space, a character that is not graphic, or a cut
character. -/
def escapeNeedsQuotes (spanned : List Char) (cut : List Nat) : Bool :=
  !cut.isEmpty || spanned.any fun c =>
    c = '\x60' || c = '\uFFFD' || Text.isWhiteSpace c || !Text.isGraphic c

/-- The message of a problem. -/
def Problem.message : Problem → String
  | .unexpected c context => "invalid character " ++ Text.quoteByte c ++ " " ++ context
  | .badEscape spanned cut =>
    let shown :=
      if escapeNeedsQuotes spanned cut then
        String.ofList ('"' :: spanned.flatMap Text.escape ++
          cut.flatMap (fun b => '\\' :: 'x' :: Text.hexDigits b 2) ++ ['"'])
      else "\x60" ++ String.ofList spanned ++ "\x60"
    "invalid escape sequence " ++ shown ++ " in string"
  | .tooDeep => "exceeded max depth"
  | .unfinished => "unexpected end of JSON input"

/-- The escape spanning the first `size` bytes of a text: its whole characters and the
leading bytes of a character it cuts. -/
def spanBytes (size : Nat) : List Char → List Char × List Nat
  | [] => ([], [])
  | c :: rest =>
    if c.utf8Size ≤ size then
      let (spanned, cut) := spanBytes (size - c.utf8Size) rest
      (c :: spanned, cut)
    else ([], (c.toString.toUTF8.toList.take size).map UInt8.toNat)

/-- The problem of a bad escape spanning the first `size` bytes of a text. -/
def badEscapeOf (size : Nat) (cs : List Char) : Problem :=
  let (spanned, cut) := spanBytes size cs
  .badEscape spanned cut

/-- How deep containers may nest. -/
def maxDepth : Nat := 10000

/-- Whether a character is white space between JSON tokens. -/
def isSpace (c : Char) : Bool :=
  c = ' ' || c = '\t' || c = '\n' || c = '\r'

/-- The text after leading white space. -/
def skipSpace (cs : List Char) : List Char :=
  cs.dropWhile isSpace

/-- What reading a part of the text gives: the part and the text after it. -/
abbrev Reading (α : Type) := Except Problem (α × List Char)

/-- The value of a hexadecimal digit. -/
def hexValue? (c : Char) : Option Nat :=
  if '0' ≤ c && c ≤ '9' then some (c.toNat - '0'.toNat)
  else if 'a' ≤ c && c ≤ 'f' then some (c.toNat - 'a'.toNat + 10)
  else if 'A' ≤ c && c ≤ 'F' then some (c.toNat - 'A'.toNat + 10)
  else none

/-- The value of four hexadecimal digits at the start of a text, and the text after them. -/
def readHex4 (cs : List Char) : Option (Nat × List Char) :=
  match cs with
  | a :: b :: c :: d :: rest => do
    let digits ← [a, b, c, d].mapM hexValue?
    return (digits.foldl (fun acc x => acc * 16 + x) 0, rest)
  | _ => none

/-- The four hexadecimal digits of a `\u` escape at the start of a text, if it has one. -/
def escapedUnit? (cs : List Char) : Option (Nat × List Char) :=
  match cs with
  | '\\' :: 'u' :: rest => readHex4 rest
  | _ => none

/-- Whether a short text can be the start of a `\u` escape: a backslash, `u` and
hexadecimal digits, as far as it goes. -/
def startsUnitEscape (cs : List Char) : Bool :=
  (cs.zip (List.range cs.length)).all fun (c, i) =>
    if i = 0 then c = '\\' else if i = 1 then c = 'u' else (hexValue? c).isSome

/-- Whether a code is a UTF-16 surrogate. -/
def isSurrogate (n : Nat) : Bool := 0xD800 ≤ n && n < 0xE000

/-- The character of a `\u` escape, joined with the escape after it when the two make a
surrogate pair. -/
def unitChar (n : Nat) (rest : List Char) : Char × List Char :=
  if !isSurrogate n then (Char.ofNat n, rest)
  else
    match escapedUnit? rest with
    | some (low, after) =>
      if n < 0xDC00 && 0xDC00 ≤ low && low < 0xE000 then
        (Char.ofNat (0x10000 + (n - 0xD800) * 0x400 + (low - 0xDC00)), after)
      else ('�', rest)
    | none => ('�', rest)

/-- The character a one-letter escape stands for. -/
def simpleEscape? (c : Char) : Option Char :=
  match c with
  | '"' => some '"'
  | '\\' => some '\\'
  | '/' => some '/'
  | 'b' => some '\x08'
  | 'f' => some '\x0c'
  | 'n' => some '\n'
  | 'r' => some '\r'
  | 't' => some '\t'
  | _ => none

/-- Reads the rest of a string after its opening quote; `acc` holds the characters read,
last first. Each step takes at least one character, so the length of the text is fuel
enough. -/
def readString : Nat → List Char → List Char → Reading String
  | 0, _, _ => .error .unfinished
  | _ + 1, _, [] => .error .unfinished
  | _ + 1, acc, '"' :: rest => .ok (String.ofList acc.reverse, rest)
  | fuel + 1, acc, '\\' :: rest =>
    match rest with
    | [] => .error .unfinished
    | 'u' :: digits =>
      let escape := '\\' :: rest
      if (String.ofList (escape.take 6)).utf8ByteSize < 6 then
        .error (if startsUnitEscape escape then .unfinished else badEscapeOf 6 escape)
      else
        match readHex4 digits with
        | none => .error (badEscapeOf 6 escape)
        | some (n, after) =>
          let (c, after) := unitChar n after
          readString fuel (c :: acc) after
    | e :: after =>
      match simpleEscape? e with
      | some c => readString fuel (c :: acc) after
      | none => .error (badEscapeOf 2 ('\\' :: rest))
  | fuel + 1, acc, c :: rest =>
    if c.toNat < 0x20 then .error (.unexpected c "in string")
    else readString fuel (c :: acc) rest

/-- Splits off leading ASCII digits. -/
def spanDigits (cs : List Char) : List Char × List Char :=
  (cs.takeWhile Char.isDigit, cs.dropWhile Char.isDigit)

/-- Reads a number from its first character on, giving its text. -/
def readNumber (cs : List Char) : Reading String :=
  let (sign, afterSign) := match cs with
    | '-' :: rest => (['-'], rest)
    | rest => ([], rest)
  let whole : Except Problem (List Char × List Char) :=
    match afterSign with
    | '0' :: rest => .ok (['0'], rest)
    | c :: rest =>
      if c.isDigit then
        let (digits, after) := spanDigits rest
        .ok (c :: digits, after)
      else .error (.unexpected c "in numeric literal")
    | [] => .error .unfinished
  match whole with
  | .error problem => .error problem
  | .ok (whole, afterWhole) =>
    let fraction : Except Problem (List Char × List Char) :=
      match afterWhole with
      | '.' :: c :: rest =>
        if c.isDigit then
          let (digits, after) := spanDigits rest
          .ok ('.' :: c :: digits, after)
        else .error (.unexpected c "in numeric literal")
      | ['.'] => .error .unfinished
      | rest => .ok ([], rest)
    match fraction with
    | .error problem => .error problem
    | .ok (fraction, afterFraction) =>
      let exponent : Except Problem (List Char × List Char) :=
        match afterFraction with
        | e :: rest =>
          if e = 'e' || e = 'E' then
            let (expSign, digitsPart) := match rest with
              | '+' :: more => (['+'], more)
              | '-' :: more => (['-'], more)
              | more => ([], more)
            match digitsPart with
            | c :: more =>
              if c.isDigit then
                let (digits, after) := spanDigits more
                .ok (e :: expSign ++ c :: digits, after)
              else .error (.unexpected c "in numeric literal")
            | [] => .error .unfinished
          else .ok ([], e :: rest)
        | [] => .ok ([], [])
      match exponent with
      | .error problem => .error problem
      | .ok (exponent, rest) => .ok (String.ofList (sign ++ whole ++ fraction ++ exponent), rest)

/-- Reads the rest of a word after its first letter: `word` holds the letters still to
come. -/
def readWord (name : String) (value : Element) : List Char → List Char → Reading Element
  | [], rest => .ok (value, rest)
  | expected :: more, c :: rest =>
    if c = expected then readWord name value more rest
    else
      .error (.unexpected c
        ("in literal " ++ name ++ " (expecting " ++ Text.quoteByte expected ++ ")"))
  | _ :: _, [] => .error .unfinished

mutual
/-- Reads a value after white space; `depth` is the number of containers open around
it. -/
def readValue : Nat → Nat → List Char → Reading Element
  | 0, _, _ => .error .unfinished
  | fuel + 1, depth, cs =>
    match skipSpace cs with
    | [] => .error .unfinished
    | c :: rest =>
      if c = '{' || c = '[' then
        if depth + 1 > maxDepth then .error .tooDeep
        else if c = '{' then readObject fuel (depth + 1) rest
        else readArray fuel (depth + 1) rest
      else if c = '"' then
        match readString (rest.length + 1) [] rest with
        | .ok (s, after) => .ok (.string s, after)
        | .error problem => .error problem
      else if c = '-' || c.isDigit then
        match readNumber (c :: rest) with
        | .ok (text, after) => .ok (.number text, after)
        | .error problem => .error problem
      else if c = 't' then readWord "true" (.bool true) ['r', 'u', 'e'] rest
      else if c = 'f' then readWord "false" (.bool false) ['a', 'l', 's', 'e'] rest
      else if c = 'n' then readWord "null" .null ['u', 'l', 'l'] rest
      else .error (.unexpected c "looking for beginning of value")

/-- Reads an object after its opening brace. -/
def readObject : Nat → Nat → List Char → Reading Element
  | 0, _, _ => .error .unfinished
  | fuel + 1, depth, cs =>
    match skipSpace cs with
    | '}' :: rest => .ok (.object [], rest)
    | _ => readMembers fuel depth [] cs

/-- Reads the members of an object from a key on; `acc` holds the members read. -/
def readMembers : Nat → Nat → List (String × Element) → List Char → Reading Element
  | 0, _, _, _ => .error .unfinished
  | fuel + 1, depth, acc, cs =>
    match skipSpace cs with
    | [] => .error .unfinished
    | '"' :: rest =>
      match readString (rest.length + 1) [] rest with
      | .error problem => .error problem
      | .ok (key, afterKey) =>
        match skipSpace afterKey with
        | [] => .error .unfinished
        | ':' :: afterColon =>
          match readValue fuel depth afterColon with
          | .error problem => .error problem
          | .ok (value, afterValue) =>
            let acc := acc ++ [(key, value)]
            match skipSpace afterValue with
            | [] => .error .unfinished
            | ',' :: more => readMembers fuel depth acc more
            | '}' :: more => .ok (.object acc, more)
            | c :: _ => .error (.unexpected c "after object key:value pair")
        | c :: _ => .error (.unexpected c "after object key")
    | c :: _ => .error (.unexpected c "looking for beginning of object key string")

/-- Reads an array after its opening bracket. -/
def readArray : Nat → Nat → List Char → Reading Element
  | 0, _, _ => .error .unfinished
  | fuel + 1, depth, cs =>
    match skipSpace cs with
    | ']' :: rest => .ok (.array [], rest)
    | _ => readItems fuel depth [] cs

/-- Reads the items of an array from an item on; `acc` holds the items read. -/
def readItems : Nat → Nat → List Element → List Char → Reading Element
  | 0, _, _, _ => .error .unfinished
  | fuel + 1, depth, acc, cs =>
    match readValue fuel depth cs with
    | .error problem => .error problem
    | .ok (item, afterItem) =>
      let acc := acc ++ [item]
      match skipSpace afterItem with
      | [] => .error .unfinished
      | ',' :: more => readItems fuel depth acc more
      | ']' :: more => .ok (.array acc, more)
      | c :: _ => .error (.unexpected c "after array element")
end

/-- Reads JSON text: one value, with nothing but white space after it. Each character is
taken by one of at most three nested readers, so four times the length of the text is
fuel enough. -/
def read (text : String) : Except Problem Element :=
  let cs := text.toList
  match readValue (4 * cs.length + 4) 0 cs with
  | .error problem => .error problem
  | .ok (value, rest) =>
    match skipSpace rest with
    | [] => .ok value
    | c :: _ => .error (.unexpected c "after top-level value")

end LosslessBuffer.Json
