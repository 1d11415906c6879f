import LosslessBuffer.Yaml.Scalar
import LosslessBuffer.Yaml.Tree
import LosslessBuffer.Yaml.Value.Order
/-!
# Values as trees to be written

How a decoded value is written back (`Value.toTree`):

* null, booleans, integers and timestamps are plain: `null`, `true`, `-5`,
  `2001-12-14T21:59:43.1-05:00` (RFC 3339 in the timestamp's own zone);
* doubles are plain with their shortest digits in the general layout, and `.inf`,
  `-.inf`, `.nan` for the special values;
* a text with a line break asks for a literal block; a text that would read back as
  something other than a text if written plain, or looks like a sexagesimal number or a
  one-time boolean word (`y`, `on`, `No`, ...), asks for double quotes; any other text asks
  to be plain;
* a text that is not UTF-8 is written under the tag `!!binary` as its base64, plain when
  it is shorter than 70 characters, else as a literal block of lines of 70 characters;
* lists are sequences, and maps are mappings with their keys in key order
  (`Value.keyLess`).
-/

set_option autoImplicit false

namespace LosslessBuffer.Yaml

open LosslessBuffer.Decimal
open LosslessBuffer.Text

/-- The text of a double: shortest digits in the general layout, `.inf`, `-.inf` and
`.nan` for the special values. -/
def floatText (x : Float) : String :=
  if x.isNaN then ".nan"
  else if x.isInf then (if x > 0 then ".inf" else "-.inf")
  else generalText x

/-- Words once read as booleans. -/
def oldBooleanWords : List String :=
  ["y", "Y", "yes", "Yes", "YES", "on", "On", "ON", "n", "N", "no", "No", "NO", "off", "Off",
    "OFF"]

/-- Whether the rest of a text after the first part of a sexagesimal number is one or
more groups `:d` or `:dd` (first digit at most five), then maybe a point and digits or
underscores. `seen` says a group has been read. -/
def sexagesimalGroups : List Char → Bool → Bool
  | [], seen => seen
  | '.' :: rest, seen => seen && rest.all fun c => c.isDigit || c = '_'
  | ':' :: a :: tail, _ =>
    if !a.isDigit then false
    else match tail with
      | b :: rest =>
        if a ≤ '5' && b.isDigit then sexagesimalGroups rest true
        else sexagesimalGroups (b :: rest) true
      | [] => true
  | _, _ => false

/-- Whether a text looks like a sexagesimal number: a sign, digits and underscores
starting with a digit, then groups of minutes and seconds. -/
def isSexagesimal (text : String) : Bool :=
  let unsigned := match text.toList with
    | '+' :: rest | '-' :: rest => rest
    | rest => rest
  match unsigned with
  | d :: rest =>
    d.isDigit && sexagesimalGroups (rest.dropWhile fun c => c.isDigit || c = '_') false
  | [] => false

/-- The style a text asks for. -/
def textStyle (text : String) : ScalarStyle :=
  if text.toList.contains '\n' then .literal
  else if (guess "" text).1 == Tag.str && !isSexagesimal text &&
      !oldBooleanWords.contains text then .plain
  else .doubleQuoted

/-- A list cut into pieces of `size` elements, the last maybe shorter; `fuel` bounds the
number of pieces. -/
def piecesOfSize {α : Type} (size : Nat) : Nat → List α → List (List α)
  | 0, _ => []
  | _, [] => []
  | fuel + 1, items => items.take size :: piecesOfSize size fuel (items.drop size)

/-- The base64 of bytes as written under `!!binary`: on one line when it is shorter than
70 characters, else in lines of 70 characters, each ending with a line break. -/
def base64Text (b : Bytes) : String :=
  let digits := b.base64.toList
  if digits.length < 70 then String.ofList digits
  else String.join ((piecesOfSize 70 digits.length digits).map fun line =>
    String.ofList line ++ "\n")

/-- The tree of bytes that are not UTF-8: their base64 under `!!binary`, a literal block
when it spans lines. -/
def binaryTree (b : Bytes) : Tree :=
  let text := base64Text b
  .scalar Tag.binary text (if text.toList.contains '\n' then .literal else .plain)

/-- Merges two lists: each element of the first goes after the elements of the second that
come strictly before it. -/
def mergeBy {α : Type} (le : α → α → Bool) : List α → List α → List α
  | [], ys => ys
  | x :: xs, ys =>
    ys.takeWhile (fun y => !le x y) ++ x :: mergeBy le xs (ys.dropWhile fun y => !le x y)

/-- Merge sort of a list at most `bound` long: the list is split in two, the front half the
longer, and the two halves sorted and merged. -/
def mergeSortWithin {α : Type} (le : α → α → Bool) : Nat → List α → List α
  | bound + 1, a :: b :: rest =>
    let halves := (a :: b :: rest).splitAt ((rest.length + 3) / 2)
    mergeBy le (mergeSortWithin le bound halves.1) (mergeSortWithin le bound halves.2)
  | _, xs => xs

/-- A stable merge sort. -/
def sortBy {α : Type} (le : α → α → Bool) (xs : List α) : List α :=
  mergeSortWithin le xs.length xs

/-- Entries sorted by key order, keys dropped. -/
def sortedEntries (entries : List (Value × Tree × Tree)) : List (Tree × Tree) :=
  (sortBy (fun a b => !Value.keyLess b.1 a.1) entries).map fun entry => entry.2

namespace Value

mutual
/-- The tree a value is written as. -/
def toTree : Value → Tree
  | .null => Tree.plain "null"
  | .bool b => Tree.plain (if b then "true" else "false")
  | .int i => Tree.plain (decimalText i)
  | .uint n => Tree.plain (toString n)
  | .float f => Tree.plain (floatText f)
  | .string s =>
    match s.toString? with
    | some text => .scalar "" text (textStyle text)
    | none => binaryTree s
  | .time t => Tree.plain t.rfc3339
  | .list items => .sequence (itemTrees items)
  | .map entries _ => .mapping (sortedEntries (entryTrees entries))

/-- The trees of the items of a list. -/
def itemTrees : List Value → List Tree
  | [] => []
  | item :: rest => item.toTree :: itemTrees rest

/-- The trees of the entries of a map, each beside its key. -/
def entryTrees : List (Value × Value) → List (Value × Tree × Tree)
  | [] => []
  | entry :: rest => (entry.1, entry.1.toTree, entry.2.toTree) :: entryTrees rest
end

end Value

end LosslessBuffer.Yaml
