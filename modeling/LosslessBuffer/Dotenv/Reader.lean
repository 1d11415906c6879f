import LosslessBuffer.Text.Category
/-!
# Reading environment files

An environment file sets variables one line at a time: `NAME=value` or `NAME: value`,
optionally after `export`. Lines end at a line feed, a carriage return, or both. Each
line is read without the white space at its ends; empty lines and lines starting with
`#` are skipped, and a byte order mark before the first line is dropped.

A value that opens a quote and does not close it on its line goes on over the lines
that follow, up to the first of them that holds the same quote not after a backslash;
a quote left open at the end of the file is refused (`missing quotes`).

A line, with the lines it took in, is a setting when it has this shape (`matchLine`):
blanks, maybe `export` and blanks, a name of ASCII letters, digits, `_` and `.`, then
`=` with blanks around it or `:` and at least one blank, then a value, then blanks and
maybe a `#` comment. The value is a text between single quotes, one between double
quotes, or a text up to a `#` or a line break; where several shapes fit, the first in
that order wins, a quoted value running to the last quote that fits. The blanks here are
tab, line feed, form feed, carriage return and space.

The value is then taken without white space at its ends. Between double quotes, `\n`
and `\r` are line breaks and a backslash before any other character but `$` is dropped.
Outside single quotes, `$NAME`, `${NAME}` and their variants (a brace on either side
may be missing) stand for the variable the program was started with, or else for the one
set earlier in the file, or else for nothing; a `$` without a name stays as written, with
its braces. `\$` keeps the reference as written, without the backslash. Names that a
value refers to are made of upper-case ASCII letters, digits and `_`.

A line of any other shape is refused: ``line `...` doesn't match format``, or, when it
starts with `export` and names a variable not set before, ``line `...` has an unset
variable``. A line that is a comment once the byte order mark is gone is skipped.
-/

set_option autoImplicit false

namespace LosslessBuffer.Dotenv

open LosslessBuffer.Text

/-! ## Lines -/

/-- The lines of a text, split at a carriage return and line feed, a carriage return or
a line feed; a text that ends with a line break has no empty line after it. -/
def splitLines (cs : List Char) : List (List Char) :=
  go cs []
where
  /-- Splits `cs`, the current line read so far being `line` in reverse. -/
  go : List Char → List Char → List (List Char)
    | [], line => if line.isEmpty then [] else [line.reverse]
    | '\r' :: '\n' :: rest, line => line.reverse :: go rest []
    | '\r' :: rest, line => line.reverse :: go rest []
    | '\n' :: rest, line => line.reverse :: go rest []
    | c :: rest, line => go rest (c :: line)

/-- A text without white space at its ends. -/
def trim (cs : List Char) : List Char :=
  ((cs.dropWhile isWhiteSpace).reverse.dropWhile isWhiteSpace).reverse

/-- The position of the last occurrence of a character. -/
def lastIndex (cs : List Char) (c : Char) : Option Nat :=
  ((List.range cs.length).filter fun i => cs[i]? = some c).getLast?

/-- Whether a backslash starts at a byte offset of the UTF-8 form of a text. -/
def backslashAtByte (cs : List Char) (offset : Nat) : Bool :=
  go cs 0
where
  /-- Walks the characters, `at` being the byte offset of the first. -/
  go : List Char → Nat → Bool
    | [], _ => false
    | c :: rest, start => if start = offset then c = '\\' else go rest (start + c.utf8Size)

/-- The quote a line leaves open, if any. The value is looked for after the first `=`,
or else the first `:`, when both sides of it hold something; when it starts with a
quote, the quote is closed if the rest of the value, without white space at its ends,
holds it, unless the byte of the value at the place found there is a backslash. -/
def openQuote (line : List Char) : Option Char :=
  let separator := match line.findIdx? (· = '=') with
    | some i => some i
    | none => line.findIdx? (· = ':')
  match separator with
  | none => none
  | some i =>
    if i = 0 || i + 1 ≥ line.length then none
    else
      match trim (line.drop (i + 1)) with
      | q :: after =>
        if q = '"' || q = '\'' then
          let rest := trim after
          match lastIndex rest q with
          | some j =>
            let offset := (rest.take j).foldl (fun n c => n + c.utf8Size) 0
            if backslashAtByte (q :: after) offset then some q else none
          | none => some q
        else none
      | [] => none

/-- Takes in the lines that follow a line while its quote stays open; gives the line
with them, the lines left, and whether the quote is still open at the end of the file. -/
def takeQuoted (quote : Char) : List Char → List (List Char) → List Char × List (List Char) × Bool
  | line, [] => (line, [], true)
  | line, next :: more =>
    let line := line ++ '\n' :: next
    match lastIndex next quote with
    | some j =>
      if j > 0 && next[j - 1]? = some '\\' then takeQuoted quote line more
      else (line, more, false)
    | none => takeQuoted quote line more

/-! ## The shape of a setting -/

/-- White space as the shape of a line knows it: tab, line feed, form feed, carriage
return and space. -/
def isBlank (c : Char) : Bool :=
  c = ' ' || c = '\t' || c = '\n' || c = '\x0c' || c = '\r'

/-- Whether a character may stand in a variable name. -/
def isNameChar (c : Char) : Bool :=
  ('A' ≤ c && c ≤ 'Z') || ('a' ≤ c && c ≤ 'z') || ('0' ≤ c && c ≤ '9') || c = '_' || c = '.'

/-- Whether what follows a value may end the line: blanks, then nothing or a comment
that stays on its line. -/
def isTail (cs : List Char) : Bool :=
  match cs.dropWhile isBlank with
  | [] => true
  | '#' :: rest => !rest.contains '\n'
  | _ => false

/-- The ways to take a value at the start of a text, in the order they are tried:
between quotes up to each closing quote, the last first; up to a `#` or line break; and
no value at all. Each way gives the value and what follows it. -/
def valueChoices (cs : List Char) : List (List Char × List Char) :=
  let quoted := match cs with
    | q :: rest =>
      if q = '\'' || q = '"' then
        ((List.range rest.length).reverse.filter fun i => rest[i]? = some q).map fun i =>
          (q :: rest.take (i + 1), rest.drop (i + 1))
      else []
    | [] => []
  let run := cs.takeWhile fun c => c ≠ '#' && c ≠ '\n'
  let plain := if run.isEmpty then [] else [(run, cs.drop run.length)]
  quoted ++ plain ++ [([], cs)]

/-- The places a value may start after a name, in the order they are tried: after `=`
and blanks around it, as many blanks after it as there are and then fewer; or after `:`
and blanks, one and then more. -/
def separatorChoices (cs : List Char) : List (List Char) :=
  let afterEquals := match cs.dropWhile isBlank with
    | '=' :: rest =>
      let blanks := (rest.takeWhile isBlank).length
      (List.range (blanks + 1)).reverse.map fun k => rest.drop k
    | _ => []
  let afterColon := match cs with
    | ':' :: rest =>
      let blanks := (rest.takeWhile isBlank).length
      (List.range blanks).map fun k => rest.drop (k + 1)
    | _ => []
  afterEquals ++ afterColon

/-- The name a line sets and the value as written, if the line has the shape of a
setting; the first reading in the order of the choices wins. -/
def matchLine (line : List Char) : Option (List Char × List Char) :=
  let cs := line.dropWhile isBlank
  let exported :=
    if cs.take 6 = "export".toList && (cs.drop 6).head?.any isBlank then
      [(cs.drop 6).dropWhile isBlank]
    else []
  (exported ++ [cs]).findSome? fun start =>
    let name := start.takeWhile isNameChar
    if name.isEmpty then none
    else
      (separatorChoices (start.drop name.length)).findSome? fun rest =>
        ((valueChoices rest).find? fun choice => isTail choice.2).map fun choice =>
          (name, choice.1)

/-! ## Values -/

/-- Replaces each backslash followed by `letter` with `meaning`, left to right. -/
def replaceEscape (letter meaning : Char) : List Char → List Char
  | '\\' :: tail@(c :: rest) =>
    if c = letter then meaning :: replaceEscape letter meaning rest
    else '\\' :: replaceEscape letter meaning tail
  | c :: rest => c :: replaceEscape letter meaning rest
  | [] => []

/-- Drops each backslash that stands before a character other than `$`. -/
def dropBackslashes : List Char → List Char
  | '\\' :: tail@(c :: rest) =>
    if c = '$' then '\\' :: dropBackslashes tail else c :: dropBackslashes rest
  | c :: rest => c :: dropBackslashes rest
  | [] => []

/-- Whether a character may stand in a name that a value refers to. -/
def isReferenceChar (c : Char) : Bool :=
  ('A' ≤ c && c ≤ 'Z') || ('0' ≤ c && c ≤ '9') || c = '_'

/-- The reference after a `$`: maybe `{`, a name, maybe `}`. Gives the characters of the
reference, the name and the text after it. -/
def reference (cs : List Char) : List Char × List Char × List Char :=
  let (opening, cs) := match cs with
    | '{' :: rest => (['{'], rest)
    | _ => ([], cs)
  let name := cs.takeWhile isReferenceChar
  let cs := cs.drop name.length
  let (closing, cs) := match cs with
    | '}' :: rest => (['}'], rest)
    | _ => ([], cs)
  (opening ++ name ++ closing, name, cs)

/-- The value of a variable a value refers to: given to the program, or else set earlier
in the file, or else empty. -/
def lookup (known : List (String × String)) (outside : String → Option String)
    (name : List Char) : List Char :=
  let key := String.ofList name
  match outside key with
  | some value => value.toList
  | none =>
    match known.find? (·.1 == key) with
    | some entry => entry.2.toList
    | none => []

/-- The value with its references replaced, left to right. Each step takes at least one
character, so the length of the value is fuel enough. -/
def expand (known : List (String × String)) (outside : String → Option String) :
    Nat → List Char → List Char
  | 0, cs => cs
  | _ + 1, [] => []
  | fuel + 1, '\\' :: '$' :: rest =>
    let (written, _, after) := reference rest
    '$' :: written ++ expand known outside fuel after
  | fuel + 1, '$' :: rest =>
    let (written, name, after) := reference rest
    (if name.isEmpty then '$' :: written else lookup known outside name) ++
      expand known outside fuel after
  | fuel + 1, c :: rest => c :: expand known outside fuel rest

/-- The value a setting gives its variable: the written value without white space at
its ends and without its quotes, its escapes read when double-quoted, and its references
replaced unless single-quoted. -/
def settle (known : List (String × String)) (outside : String → Option String)
    (written : List Char) : List Char :=
  let value := trim written
  let doubleQuoted := value.length ≥ 2 && value.head? = some '"' && value.getLast? = some '"'
  let singleQuoted := value.length ≥ 2 && value.head? = some '\'' && value.getLast? = some '\''
  let inner := if doubleQuoted || singleQuoted then (value.drop 1).dropLast else value
  let inner :=
    if doubleQuoted then dropBackslashes (replaceEscape 'r' '\r' (replaceEscape 'n' '\n' inner))
    else inner
  if singleQuoted then inner else expand known outside (inner.length + 1) inner

/-- A text between backticks, as complaints show a line. -/
def shown (cs : List Char) : String :=
  String.ofList ('\x60' :: cs ++ ['\x60'])

/-- The complaint about a line that is not a setting, if any: a line that is empty or a
comment without white space at its ends is let go. -/
def refusal (known : List (String × String)) (line : List Char) : Option String :=
  let trimmed := trim line
  let named := String.ofList ((trimmed.dropWhile (· ≠ ' ')).drop 1)
  if trimmed.isEmpty || trimmed.head? = some '#' then none
  else if trimmed.take 6 = "export".toList && trimmed.contains ' ' &&
      !known.any (·.1 == named) then
    some ("line " ++ shown trimmed ++ " has an unset variable")
  else some ("line " ++ shown line ++ " doesn't match format")

/-! ## Files -/

/-- Reads the lines of a file one setting at a time; `first` says whether the first
line is next. -/
def readLines (outside : String → Option String) :
    Nat → Bool → List (List Char) → List (String × String) → Except String (List (String × String))
  | 0, _, _, known => .ok known
  | _ + 1, _, [], known => .ok known
  | fuel + 1, first, raw :: rest, known =>
    let line := trim raw
    let line := if first then (match line with | '﻿' :: more => more | _ => line) else line
    if line.isEmpty || line.head? = some '#' then readLines outside fuel false rest known
    else
      let (line, rest, unclosed) := match openQuote line with
        | some quote => takeQuoted quote line rest
        | none => (line, rest, false)
      if unclosed then .error "missing quotes"
      else
        match matchLine line with
        | none =>
          match refusal known line with
          | some complaint => .error complaint
          | none => readLines outside fuel false rest known
        | some (name, written) =>
          let key := String.ofList name
          let value := String.ofList (settle known outside written)
          readLines outside fuel false rest ((known.filter (·.1 != key)) ++ [(key, value)])

/-- Reads the variables of a file, in the order set; a later setting of a name wins.
`outside` gives the variables the program was started with. -/
def read (text : String) (outside : String → Option String) :
    Except String (List (String × String)) :=
  let lines := splitLines text.toList
  readLines outside (lines.length + 1) true lines []

end LosslessBuffer.Dotenv
