import LosslessBuffer.Yaml.Value
import LosslessBuffer.Decimal.Read
import LosslessBuffer.Text.Integer

/-!
# Scalar resolution

A YAML scalar is text with a tag. Resolution decides which value the text stands for.

* Explicit tags outside the core schema (`!!null`, `!!binary`, `!!merge`, local tags such
  as `!custom`) keep the text as a string under that tag.
* Otherwise the first character narrows the candidates: a sign or digit may start a
  timestamp, an integer or a float; `y n t f o ~` may start a word from the table of
  booleans and nulls; a point may start a float; the empty text is null; anything else is
  a string.
* Integers are read after deleting underscores, with base prefixes `0b`, `0o`, `0x` and
  octal after a leading zero; those beyond the signed range but within 64 bits are
  unsigned, and longer ones fall through to floats.
* A float must have the shape `[-+]?(\.d+|d+(\.d*)?)([eE][-+]?d+)?` and a finite value.

When the tag was explicit, the value found must carry that tag, except that an integer
asked for as a float becomes that float, and any text is acceptable as `!!str`.
-/

set_option autoImplicit false

namespace LosslessBuffer.Yaml

open LosslessBuffer.Calendar
open LosslessBuffer.Decimal
open LosslessBuffer.Text

namespace Tag

/-- The prefix of the tags of the core schema. -/
def corePrefix : String := "tag:yaml.org,2002:"

/-- Strings. -/
def str : String := "!!str"
/-- Integers. -/
def int : String := "!!int"
/-- Floats. -/
def float : String := "!!float"
/-- Booleans. -/
def bool : String := "!!bool"
/-- Null. -/
def null : String := "!!null"
/-- Timestamps. -/
def timestamp : String := "!!timestamp"
/-- Base64 data. -/
def binary : String := "!!binary"
/-- Sequences. -/
def seq : String := "!!seq"
/-- Mappings. -/
def map : String := "!!map"
/-- The merge key `<<`. -/
def merge : String := "!!merge"

/-- A core-schema tag written with `!!`; other tags unchanged. -/
def short (tag : String) : String :=
  if tag.startsWith corePrefix then "!!" ++ String.ofList (tag.toList.drop corePrefix.length)
  else tag

/-- Whether resolution looks at the text for this tag. -/
def isResolvable (tag : String) : Bool :=
  tag == "" || tag == str || tag == bool || tag == int || tag == float || tag == timestamp ||
    tag == null

end Tag

/-- What the first character of a scalar suggests. -/
inductive Hint where
  /-- A sign: a number or a timestamp. -/
  | sign
  /-- A digit: a number or a timestamp. -/
  | digit
  /-- A letter or `~` that may start a word of the table. -/
  | word
  /-- A point: a float. -/
  | point
  | empty
  deriving DecidableEq, Repr

/-- The hint of a text, none when it can only be a string. -/
def hintOf (text : String) : Option Hint :=
  match text.toList with
  | [] => some .empty
  | c :: _ =>
    if c = '+' ∨ c = '-' then some .sign
    else if '0' ≤ c ∧ c ≤ '9' then some .digit
    else if "yYnNtTfFoO~".toList.contains c then some .word
    else if c = '.' then some .point
    else none

/-- The words with a fixed meaning: booleans, nulls, infinities and not-a-number. -/
def wordValue (text : String) : Option (String × Value) :=
  if text = "true" ∨ text = "True" ∨ text = "TRUE" then some (Tag.bool, .bool true)
  else if text = "false" ∨ text = "False" ∨ text = "FALSE" then some (Tag.bool, .bool false)
  else if text = "" ∨ text = "~" ∨ text = "null" ∨ text = "Null" ∨ text = "NULL" then
    some (Tag.null, .null)
  else if text = ".nan" ∨ text = ".NaN" ∨ text = ".NAN" then some (Tag.float, .float (0.0 / 0.0))
  else if text = ".inf" ∨ text = ".Inf" ∨ text = ".INF" ∨ text = "+.inf" ∨ text = "+.Inf" ∨
      text = "+.INF" then some (Tag.float, .float (1.0 / 0.0))
  else if text = "-.inf" ∨ text = "-.Inf" ∨ text = "-.INF" then
    some (Tag.float, .float (-1.0 / 0.0))
  else none

/-- Whether a text has the shape `[-+]?(\.d+|d+(\.d*)?)([eE][-+]?d+)?`. -/
def isFloatShape (text : List Char) : Bool :=
  let isDigit (c : Char) : Bool := '0' ≤ c && c ≤ '9'
  let unsigned := match text with
    | '-' :: rest | '+' :: rest => rest
    | rest => rest
  let mantissaRest : Option (List Char) :=
    match unsigned with
    | '.' :: rest =>
      let digits := rest.takeWhile isDigit
      if digits = [] then none else some (rest.dropWhile isDigit)
    | rest =>
      let digits := rest.takeWhile isDigit
      if digits = [] then none
      else match rest.dropWhile isDigit with
        | '.' :: fraction => some (fraction.dropWhile isDigit)
        | other => some other
  match mantissaRest with
  | none => false
  | some [] => true
  | some (e :: rest) =>
    (e = 'e' || e = 'E') &&
      (let digits := match rest with
        | '-' :: d | '+' :: d => d
        | d => d
      digits ≠ [] && digits.all isDigit)

/-- A number's value: signed when it fits 64 signed bits, else unsigned when it fits 64
bits, else a finite float of the right shape. -/
def numberValue (text : String) : Option (String × Value) :=
  let plain := text.toList.filter (· ≠ '_')
  match readIntLiteral plain with
  | .ok i => some (Tag.int, .int i)
  | .error _ =>
    match readNatLiteral plain with
    | .ok n => some (Tag.int, .uint n)
    | .error _ =>
      if isFloatShape plain then (readFloat (String.ofList plain)).map fun f => (Tag.float, .float f)
      else none

/-- The tag and value a text has under a resolvable tag, before the tag is checked. -/
def guess (tag text : String) : String × Value :=
  let fallback := (Tag.str, Value.string text)
  match hintOf text with
  | none => fallback
  | some hint =>
    if tag == Tag.str then fallback
    else match wordValue text with
      | some found => found
      | none =>
        match hint with
        | .point => match readFloat text with
          | some f => (Tag.float, .float f)
          | none => fallback
        | .sign | .digit =>
          let stamp := if tag == "" || tag == Tag.timestamp then Timestamp.parse? text else none
          match stamp with
          | some t => (Tag.timestamp, .time t)
          | none => (numberValue text).getD fallback
        | _ => fallback

/-- Resolves a scalar's text under its tag. An explicit tag that the text cannot carry is
an error naming the tag found, the text and the tag asked for. -/
def resolve (tag text : String) : Except String (String × Value) :=
  let tag := Tag.short tag
  if !Tag.isResolvable tag then .ok (tag, .string text)
  else
    let (found, value) := guess tag text
    if tag == "" || tag == found || tag == Tag.str then .ok (found, value)
    else match tag == Tag.float, value with
      | true, .int i => .ok (Tag.float, .float (Float.ofInt i))
      | _, _ =>
        .error ("cannot decode " ++ Tag.short found ++ " `" ++ text ++ "` as a " ++ tag)

/-! ## Base64 -/

/-- The value of a character of the standard base64 alphabet. -/
def base64Digit (c : Char) : Option Nat :=
  if 'A' ≤ c ∧ c ≤ 'Z' then some (c.toNat - 'A'.toNat)
  else if 'a' ≤ c ∧ c ≤ 'z' then some (c.toNat - 'a'.toNat + 26)
  else if '0' ≤ c ∧ c ≤ '9' then some (c.toNat - '0'.toNat + 52)
  else if c = '+' then some 62
  else if c = '/' then some 63
  else none

/-- Bytes from groups of four base64 characters; the last group may end in `=` or `==`.
Unused low bits of a padded group are ignored. -/
def base64Bytes : List Char → Option (List UInt8)
  | [] => some []
  | [a, b, '=', '='] => do
    let x ← base64Digit a
    let y ← base64Digit b
    some [UInt8.ofNat ((x * 4) + y / 16)]
  | [a, b, c, '='] => do
    let x ← base64Digit a
    let y ← base64Digit b
    let z ← base64Digit c
    some [UInt8.ofNat (x * 4 + y / 16), UInt8.ofNat ((y % 16) * 16 + z / 4)]
  | a :: b :: c :: d :: rest => do
    let x ← base64Digit a
    let y ← base64Digit b
    let z ← base64Digit c
    let w ← base64Digit d
    let tail ← base64Bytes rest
    some (UInt8.ofNat (x * 4 + y / 16) :: UInt8.ofNat ((y % 16) * 16 + z / 4) ::
      UInt8.ofNat ((z % 4) * 64 + w) :: tail)
  | _ => none

/-- Decodes standard base64 with padding, ignoring line breaks. -/
def decodeBase64 (text : String) : Option (List UInt8) :=
  base64Bytes (text.toList.filter fun c => c ≠ '\n' ∧ c ≠ '\r')

end LosslessBuffer.Yaml
