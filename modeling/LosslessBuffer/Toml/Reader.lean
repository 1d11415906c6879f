import LosslessBuffer.Toml.Item
import LosslessBuffer.Toml.Seen
/-!
# Reading TOML text

`read` reads a TOML document one expression at a time, each on a line of its own: a
key-value pair (`key = value`), a table header (`[name]`) or an array-of-tables header
(`[[name]]`), each optionally followed by a comment. It gives the top-level table: its
keys in the order first defined, each with its value (`Item`). Keys may be bare (ASCII
letters, digits, `-`, `_`), quoted, or dotted (`a.b = 1` sets `b` in the table `a`).

Values are strings (basic `"..."` with escapes, literal `'...'`, and both in multi-line
form), integers (decimal, `0x`, `0o`, `0b`, with `_` between digits), floats (with a
fraction or an exponent, `inf`, `nan`), booleans, date-times (kept as written), arrays and
inline tables.

A problem is reported as the first one met reading from the start, each expression
being read whole and added to the document before the next is read; its message starts
with `toml: `. A key defined twice is a problem.
-/

set_option autoImplicit false

namespace LosslessBuffer.Toml

/-! ## Line breaks and comments -/

/-- Takes the line break at the start of a text: a line feed, or a carriage return and a
line feed. Any other character is refused, and so is a carriage return alone. -/
def takeLineBreak (cs : List Char) : Except String (List Char) :=
  match cs with
  | '\n' :: rest => .ok rest
  | ['\r'] => .error "windows new line expected"
  | '\r' :: '\n' :: rest => .ok rest
  | '\r' :: _ => .error "windows new line missing \\n"
  | c :: _ => .error ("expected newline but got " ++ codeText c)
  | [] => .ok []

/-- Skips a comment after its `#`, up to the line break that ends it. A carriage return
counts as a line break only with a line feed after it; alone, like a control character,
it is refused. -/
def skipComment : List Char → Except String (List Char)
  | [] => .ok []
  | '\n' :: rest => .ok ('\n' :: rest)
  | '\r' :: '\n' :: rest => .ok ('\n' :: rest)
  | c :: rest => if isStringChar c then skipComment rest else .error "invalid character in comment"

/-- Skips white space, comments and line breaks between the items of an array. Each
round takes a line break, so the length of the text is fuel enough. -/
def skipBlank : Nat → List Char → Except String (List Char)
  | 0, cs => .ok cs
  | fuel + 1, cs => do
    let cs := skipSpace cs
    let cs ← match cs with
      | '#' :: rest => skipComment rest
      | _ => pure cs
    match cs with
    | '\n' :: _ | '\r' :: _ => skipBlank fuel (← takeLineBreak cs)
    | _ => pure cs

/-! ## Values -/

mutual
/-- Reads a value. -/
def readValue : Nat → List Char → Reading Token
  | 0, _ => .error "document nested too deeply"
  | fuel + 1, cs =>
    match cs with
    | [] => .error "expected value, not eof"
    | '"' :: rest =>
      if rest.take 2 = ['"', '"'] then
        (readMultilineBasic (rest.drop 2)).map fun (s, after) => (.string s, after)
      else (readBasic rest).map fun (s, after) => (.string s, after)
    | '\'' :: rest =>
      if rest.take 2 = ['\'', '\''] then
        (readMultilineLiteral (rest.drop 2)).map fun (s, after) => (.string s, after)
      else (readLiteral [] rest).map fun (s, after) => (.string s, after)
    | 't' :: _ =>
      if cs.take 4 = "true".toList then .ok (.bool true, cs.drop 4) else .error "expected 'true'"
    | 'f' :: _ =>
      if cs.take 5 = "false".toList then .ok (.bool false, cs.drop 5) else .error "expected 'false'"
    | '[' :: rest => readArray fuel true [] rest
    | '{' :: rest => readInlineTable fuel true [] rest
    | _ => readNumberOrDateTime cs

/-- Reads the items of an array after its opening bracket, or after the last item read
and the blanks after it; `first` says no item has been read, and `acc` holds the items
read, last first. A comma may follow the last item. -/
def readArray : Nat → Bool → List Token → List Char → Reading Token
  | 0, _, _, _ => .error "document nested too deeply"
  | _ + 1, _, acc, [] =>
    match expectChar ']' [] with
    | .error problem => .error problem
    | .ok rest => .ok (.array acc.reverse, rest)
  | fuel + 1, first, acc, c :: cs =>
    match skipBlank (cs.length + 2) (c :: cs) with
    | .error problem => .error problem
    | .ok [] => .error "array is incomplete"
    | .ok (']' :: rest) => .ok (.array acc.reverse, rest)
    | .ok more =>
      let start : Except String (List Char) := match more with
        | ',' :: rest =>
          if first then .error "array cannot start with comma"
          else skipBlank (rest.length + 1) rest
        | _ => if first then .ok more else .error "array elements must be separated by commas"
      match start with
      | .error problem => .error problem
      | .ok (']' :: after) => .ok (.array acc.reverse, after)
      | .ok start =>
        match readValue fuel start with
        | .error problem => .error problem
        | .ok (item, after) =>
          match skipBlank (after.length + 1) after with
          | .error problem => .error problem
          | .ok after => readArray fuel false (item :: acc) after

/-- Reads the pairs of an inline table after its opening brace, or after the last pair
read; `first` says no pair has been read, and `acc` holds the pairs read, last first. -/
def readInlineTable : Nat → Bool → List (List String × Token) → List Char →
    Reading Token
  | 0, _, _, _ => .error "document nested too deeply"
  | _ + 1, _, acc, [] =>
    match expectChar '}' [] with
    | .error problem => .error problem
    | .ok rest => .ok (.inlineTable acc.reverse, rest)
  | fuel + 1, first, acc, c :: cs =>
    match skipSpace (c :: cs) with
    | [] => .error "inline table is incomplete"
    | '}' :: rest => .ok (.inlineTable acc.reverse, rest)
    | more =>
      let start := if first then .ok more else skipSpace <$> expectChar ',' more
      match start with
      | .error problem => .error problem
      | .ok start =>
        match readKey start with
        | .error problem => .error problem
        | .ok (key, afterKey) =>
          match skipSpace afterKey with
          | [] => .error "expected = after a key, but the document ends there"
          | afterKey =>
            match expectChar '=' afterKey with
            | .error problem => .error problem
            | .ok afterEq =>
              match readValue fuel (skipSpace afterEq) with
              | .error problem => .error problem
              | .ok (value, after) => readInlineTable fuel false ((key, value) :: acc) after
end

/-! ## Expressions -/

/-- Reads a key-value pair. -/
def readKeyValue (fuel : Nat) (cs : List Char) : Except String (Expression × List Char) := do
  let (key, afterKey) ← readKey cs
  match skipSpace afterKey with
  | [] => .error "expected = after a key, but the document ends there"
  | afterKey =>
    let afterEq ← expectChar '=' afterKey
    let (value, after) ← readValue fuel (skipSpace afterEq)
    return (.keyValue key value, after)

/-- Reads a table header or an array-of-tables header after its first bracket. -/
def readHeader (cs : List Char) : Except String (Expression × List Char) :=
  match cs with
  | '[' :: rest => do
    let (key, after) ← readKey (skipSpace rest)
    let after ← expectChar ']' (skipSpace after)
    let after ← expectChar ']' after
    return (.arrayTable key, after)
  | _ => do
    let (key, after) ← readKey (skipSpace cs)
    let after ← expectChar ']' (skipSpace after)
    return (.table key, after)

/-- Reads the expression of a line, if the line holds one, and skips the comment after
it. -/
def readExpression (fuel : Nat) (cs : List Char) : Except String (Option Expression × List Char) := do
  let cs := skipSpace cs
  match cs with
  | [] => return (none, [])
  | '#' :: rest => return (none, ← skipComment rest)
  | '\n' :: _ | '\r' :: _ => return (none, cs)
  | _ =>
    let (expression, after) ← match cs with
      | '[' :: rest => readHeader rest
      | _ => readKeyValue fuel cs
    match skipSpace after with
    | '#' :: rest => return (some expression, ← skipComment rest)
    | after => return (some expression, after)

/-- Reading a document: the top-level entries, the key of the table that key-value
pairs go into, and the keys seen so far. -/
structure Document where
  entries : List (String × Item) := []
  /-- The key of the current table; empty at the top level. -/
  current : List String := []
  seen : Seen := {}

/-- Adds an expression to a document: its keys are checked against those seen before
any of its values is converted. -/
def Document.add (d : Document) (e : Expression) : Except String Document := do
  let seen ← d.seen.check e
  match e with
  | .keyValue key value =>
    let item ← value.toItem
    let path := d.current ++ key
    let entries ← insertAt (path.length + 1) d.entries path item
    return { d with entries, seen }
  | .table key =>
    let entries ← openTable false (key.length + 1) d.entries key
    return { entries, current := key, seen }
  | .arrayTable key =>
    let entries ← openTable true (key.length + 1) d.entries key
    return { entries, current := key, seen }

/-- Reads the expressions of a text into a document, one line at a time. Each line takes
at least one character, so the length of the text is fuel enough. -/
def readLines : Nat → Document → List Char → Except String Document
  | 0, d, _ => .ok d
  | fuel + 1, d, cs =>
    match readExpression (cs.length + 1) cs with
    | .error problem => .error problem
    | .ok (expression, rest) => do
      let d ← match expression with
        | some e => d.add e
        | none => pure d
      match rest with
      | [] => return d
      | _ =>
        let rest ← takeLineBreak rest
        if rest.isEmpty then return d else readLines fuel d rest

/-- Reads a TOML document into its top-level entries. A problem's message starts with
`toml: `. -/
def read (text : String) : Except String (List (String × Item)) :=
  match readLines (text.length + 1) {} text.toList with
  | .ok d => .ok d.entries
  | .error problem => .error ("toml: " ++ problem)

end LosslessBuffer.Toml
