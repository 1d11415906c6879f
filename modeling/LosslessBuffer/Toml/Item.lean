import LosslessBuffer.Toml.Moment
import LosslessBuffer.Decimal.Read
/-!
# TOML values

An `Item` is a converted TOML value. Converting a token (`Token.toItem`) reads its
numbers: integers in decimal (no leading zero), or after `0x`, `0o` or `0b`, up to the
limits of a signed 64-bit word, and floats with digits on both sides of the point.
Underscores may stand between digits only. Date-times are read as `Moment.read` says.

Tables are lists of entries in the order their keys were first defined. A dotted key
makes the tables on its way (`insertAt`); a key set twice is refused, and so is a key that
goes through a value that is not a table. A table header opens a table, and an
array-of-tables header adds a table to an array (`openTable`).
-/

set_option autoImplicit false

namespace LosslessBuffer.Toml

/-- A TOML value. -/
inductive Item where
  | string (value : String)
  | integer (value : Int64)
  | float (value : Float)
  | bool (value : Bool)
  | dateTime (moment : Moment)
  | array (items : List Item)
  /-- A table, keys in the order first defined. -/
  | table (entries : List (String × Item))
  deriving Inhabited

/-! ## Converting values -/

/-- A number without the underscores between its digits; an underscore at either end or
next to another is refused. -/
def withoutUnderscores (text : List Char) : Except String (List Char) :=
  let body := match text with
    | '+' :: rest | '-' :: rest => rest
    | rest => rest
  if body.head? = some '_' then .error "number cannot start with underscore"
  else if body.getLast? = some '_' then .error "number cannot end with underscore"
  else if (body.zip body.tail).any fun pair => pair.1 = '_' && pair.2 = '_' then
    .error "number must have at least one digit between underscores"
  else .ok (text.filter (· ≠ '_'))

/-- The value of digits in a base, if they all are digits of it and there is one. -/
def digitsIn (base : Nat) (digits : List Char) : Option Nat :=
  if digits.isEmpty then none
  else digits.foldlM (fun acc c => (hexValue? c).bind fun d =>
    if d < base then some (acc * base + d) else none) 0

/-- The message of a number the integer reader refuses. -/
def integerProblem (kind : String) (digits : List Char) (reason : String) : String :=
  "couldn't parse " ++ kind ++ " number: strconv.ParseInt: parsing " ++
    Text.quote (String.ofList digits) ++ ": " ++ reason

/-- The integer of decimal digits with an optional sign; a leading zero is refused. -/
def decimalValue (text : List Char) : Except String Int64 := do
  let digits ← withoutUnderscores text
  let (negative, body) := match digits with
    | '-' :: rest => (true, rest)
    | '+' :: rest => (false, rest)
    | rest => (false, rest)
  if body.length > 1 && body.head? = some '0' then
    throw "leading zero not allowed on decimal number"
  match digitsIn 10 body with
  | none => throw (integerProblem "decimal" digits "invalid syntax")
  | some n =>
    if negative && n ≤ Nat.pow 2 63 then return Int64.ofInt (-(n : Int))
    else if !negative && n < Nat.pow 2 63 then return Int64.ofNat n
    else throw (integerProblem "decimal" digits "value out of range")

/-- The integer an integer token stands for. A base prefix counts only with a digit
after it; `0x` alone is read as a decimal number, with its leading zero. -/
def integerValue (text : String) : Except String Int64 :=
  match text.toList with
  | '0' :: b :: first :: more =>
    let rest := first :: more
    if b = 'x' || b = 'o' || b = 'b' then do
      let digits ← withoutUnderscores rest
      let (base, kind) :=
        if b = 'x' then (16, "hexadecimal") else if b = 'o' then (8, "octal") else (2, "binary")
      match digitsIn base digits with
      | none => throw (integerProblem kind digits "invalid syntax")
      | some n =>
        if n < Nat.pow 2 63 then return Int64.ofNat n
        else throw (integerProblem kind digits "value out of range")
    else decimalValue ('0' :: b :: rest)
  | cs => decimalValue cs

/-- A float without the underscores between its digits, read left to right after the
ends are checked: an underscore needs a digit right before it (`digitBefore`) and may not
touch an exponent mark or a point, and a sign starts a new run of digits. -/
def floatUnderscoresFrom (digitBefore : Bool) (previous : Option Char) :
    List Char → Except String (List Char)
  | [] => .ok []
  | c :: rest =>
    let next := rest.head?
    if c = '_' then
      if !digitBefore then .error "number must have at least one digit between underscores"
      else if next = some 'e' || next = some 'E' then
        .error "cannot have underscore before exponent"
      else floatUnderscoresFrom false (some c) rest
    else if c = '+' || c = '-' then
      (c :: ·) <$> floatUnderscoresFrom false (some c) rest
    else if c = 'e' || c = 'E' then
      if next = some '_' then .error "cannot have underscore after exponent"
      else (c :: ·) <$> floatUnderscoresFrom digitBefore (some c) rest
    else if c = '.' then
      if next = some '_' then .error "cannot have underscore after decimal point"
      else if previous = some '_' then .error "cannot have underscore before decimal point"
      else (c :: ·) <$> floatUnderscoresFrom digitBefore (some c) rest
    else (c :: ·) <$> floatUnderscoresFrom true (some c) rest

/-- A float without its underscores; one at either end is refused first. -/
def floatWithoutUnderscores (text : List Char) : Except String (List Char) :=
  if text.head? = some '_' then .error "number cannot start with underscore"
  else if text.getLast? = some '_' then .error "number cannot end with underscore"
  else if !text.contains '_' then .ok text
  else floatUnderscoresFrom false none text

/-- The first complaint about the points of a float, from the left: a second point, or
one without a digit right before or right after it. The float neither starts nor ends
with a point. -/
def pointProblem (seen : Bool) : List Char → Option String
  | a :: '.' :: b :: rest =>
    if seen then some "float can have at most one decimal point"
    else if !a.isDigit then some "float decimal point must be preceded by a digit"
    else if !b.isDigit then some "float decimal point must be followed by a digit"
    else pointProblem true (b :: rest)
  | _ :: rest => pointProblem seen rest
  | [] => none

/-- The float a float token stands for. -/
def floatValue (text : String) : Except String Float := do
  let cs := text.toList
  let negative := cs.head? = some '-'
  let body := match cs with
    | '+' :: rest | '-' :: rest => rest
    | rest => rest
  if body = ['n', 'a', 'n'] then return (0.0 / 0.0)
  if body = ['i', 'n', 'f'] then return (if negative then -1.0 / 0.0 else 1.0 / 0.0)
  let cleaned ← floatWithoutUnderscores cs
  if cleaned.head? = some '.' then throw "float cannot start with a dot"
  if cleaned.getLast? = some '.' then throw "float cannot end with a dot"
  if let some problem := pointProblem false cleaned then throw problem
  let unsigned := match cleaned with
    | '+' :: rest | '-' :: rest => rest
    | rest => rest
  match unsigned with
  | '0' :: d :: _ => if d.isDigit then throw "float integer part cannot have leading zeroes"
  | _ => pure ()
  match Decimal.parseFloat (String.ofList cleaned) with
  | .ok f => return f
  | .error problem =>
    throw ("unable to parse float: strconv.ParseFloat: parsing " ++
      Text.quote (String.ofList cleaned) ++ ": " ++
      (match problem with
        | .malformed => "invalid syntax"
        | .tooLarge => "value out of range"))

/-! ## Tables -/

/-- Sets a value at a dotted key inside a table's entries, making the tables on the way;
a key set before is refused. -/
def insertAt : Nat → List (String × Item) → List String → Item →
    Except String (List (String × Item))
  | 0, _, _, _ => .error "document nested too deeply"
  | _, entries, [], _ => .ok entries
  | _ + 1, entries, [key], value =>
    if entries.any (·.1 == key) then .error ("key " ++ key ++ " is already defined")
    else .ok (entries ++ [(key, value)])
  | fuel + 1, entries, key :: rest, value =>
    match entries.find? (·.1 == key) with
    | none => do
      let inner ← insertAt fuel [] rest value
      return entries ++ [(key, .table inner)]
    | some (_, .table inner) => do
      let inner ← insertAt fuel inner rest value
      return entries.map fun entry => if entry.1 == key then (key, .table inner) else entry
    | some (_, .array items) =>
      match items.getLast? with
      | some (.table inner) => do
        let inner ← insertAt fuel inner rest value
        let items := items.dropLast ++ [.table inner]
        return entries.map fun entry => if entry.1 == key then (key, .array items) else entry
      | _ => .error ("expected " ++ key ++ " to be a table, not a value")
    | some _ => .error ("expected " ++ key ++ " to be a table, not a value")

/-- Makes the table at a dotted key, or opens the one there; for an array of tables,
adds a table to it. -/
def openTable (arrayOf : Bool) : Nat → List (String × Item) → List String →
    Except String (List (String × Item))
  | 0, _, _ => .error "document nested too deeply"
  | _, entries, [] => .ok entries
  | _ + 1, entries, [key] =>
    match entries.find? (·.1 == key) with
    | none => .ok (entries ++ [(key, if arrayOf then .array [.table []] else .table [])])
    | some (_, .array items) =>
      if arrayOf then
        .ok (entries.map fun entry => if entry.1 == key then (key, .array (items ++ [.table []])) else entry)
      else .error ("key " ++ key ++ " is already defined")
    | some (_, .table _) =>
      if arrayOf then .error ("key " ++ key ++ " is already defined") else .ok entries
    | some _ => .error ("key " ++ key ++ " is already defined")
  | fuel + 1, entries, key :: rest =>
    match entries.find? (·.1 == key) with
    | none => do
      let inner ← openTable arrayOf fuel [] rest
      return entries ++ [(key, .table inner)]
    | some (_, .table inner) => do
      let inner ← openTable arrayOf fuel inner rest
      return entries.map fun entry => if entry.1 == key then (key, .table inner) else entry
    | some (_, .array items) =>
      match items.getLast? with
      | some (.table inner) => do
        let inner ← openTable arrayOf fuel inner rest
        let items := items.dropLast ++ [.table inner]
        return entries.map fun entry => if entry.1 == key then (key, .array items) else entry
      | _ => .error ("expected " ++ key ++ " to be a table, not a value")
    | some _ => .error ("expected " ++ key ++ " to be a table, not a value")

mutual
/-- The value a token stands for. -/
def Token.toItem : Token → Except String Item
  | .string s => .ok (.string s)
  | .integer text => Item.integer <$> integerValue text
  | .float text => Item.float <$> floatValue text
  | .bool b => .ok (.bool b)
  | .dateTime text kind => Item.dateTime <$> Moment.read kind text
  | .array items => Item.array <$> tokenItems items
  | .inlineTable pairs => Item.table <$> pairItems [] pairs

/-- The values of tokens, in order. -/
def tokenItems : List Token → Except String (List Item)
  | [] => .ok []
  | t :: rest => do
    let item ← t.toItem
    let items ← tokenItems rest
    return item :: items

/-- The table of the pairs of an inline table, added to `entries`. -/
def pairItems (entries : List (String × Item)) : List (List String × Token) →
    Except String (List (String × Item))
  | [] => .ok entries
  | (key, t) :: rest => do
    let item ← t.toItem
    let entries ← insertAt (key.length + 1) entries key item
    pairItems entries rest
end

end LosslessBuffer.Toml
