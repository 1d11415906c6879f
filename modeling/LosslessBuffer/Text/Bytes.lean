import LosslessBuffer.Text.Quoted
import LosslessBuffer.Text.Search
/-!
# Byte strings

Text read from a configuration is a sequence of bytes. It is nearly always UTF-8, but a
YAML `!!binary` scalar may hold any bytes, and the text keeps them wherever it goes:

* two texts are equal when their bytes are, and are ordered byte by byte
  (`Bytes.compareBytes`), which for UTF-8 is the order of code points;
* read as characters (`Bytes.pieces`), each position holds the character whose UTF-8
  encoding starts there or, when no valid encoding does, a stray byte on its own;
* shown where only characters can stand (`Bytes.lossy`), a stray byte becomes U+FFFD;
* quoted (`Bytes.quote`), a stray byte is written `\xHH`;
* written as base64 (`Bytes.base64`) where a text that is not UTF-8 cannot be written.

A string is a byte string through its UTF-8 encoding (`Bytes.ofString`); that is a
coercion, so messages that mix the two are written as one concatenation.
-/

set_option autoImplicit false

namespace LosslessBuffer.Text

/-- A sequence of bytes: a text that need not be UTF-8. -/
structure Bytes where
  toList : List UInt8
  deriving DecidableEq, Inhabited, Repr

/-- One position of a byte string read as characters. -/
inductive Piece where
  | char (c : Char)
  /-- A byte that starts no valid encoding. -/
  | stray (b : UInt8)
  deriving DecidableEq, Repr

/-- Whether a byte continues a multi-byte encoding: `10xxxxxx`. -/
def isContinuation (b : UInt8) : Bool := b.toNat / 64 = 2

/-- The number of bytes of the encoding a lead byte starts; zero for a byte that starts
none. -/
def encodingWidth (n : Nat) : Nat :=
  if n < 0x80 then 1 else if n / 32 = 6 then 2 else if n / 16 = 14 then 3
  else if n / 8 = 30 then 4 else 0

/-- The character whose UTF-8 encoding starts a list of bytes, with its width; none when
the first byte starts no valid encoding: a continuation byte, a lead byte without all its
continuations, an overlong form, a surrogate, or a code point past U+10FFFF. -/
def leadingChar : List UInt8 → Option (Char × Nat)
  | [] => none
  | b :: rest =>
    let n := b.toNat
    let width := encodingWidth n
    if width = 1 then some (Char.ofNat n, 1)
    else
      let body := rest.take (width - 1)
      if width = 0 ∨ body.length < width - 1 ∨ !body.all isContinuation then none
      else
        let code := body.foldl (fun v x => v * 64 + x.toNat % 64)
          (n % (if width = 2 then 32 else if width = 3 then 16 else 8))
        let least := if width = 2 then 0x80 else if width = 3 then 0x800 else 0x10000
        if code < least ∨ code > 0x10FFFF ∨ (0xD800 ≤ code ∧ code ≤ 0xDFFF) then none
        else some (Char.ofNat code, width)

/-- A list of bytes read as characters, a byte that starts no valid encoding standing
alone. -/
def piecesOf (bytes : List UInt8) : List Piece :=
  match bytes with
  | [] => []
  | b :: rest =>
    match leadingChar (b :: rest) with
    | some (c, width) => .char c :: piecesOf (rest.drop (width - 1))
    | none => .stray b :: piecesOf rest
termination_by bytes.length
decreasing_by
  all_goals (simp only [List.length_cons, List.length_drop]; omega)

/-- Lexicographic order of byte lists, a proper prefix first. -/
def compareBytes : List UInt8 → List UInt8 → Ordering
  | [], [] => .eq
  | [], _ :: _ => .lt
  | _ :: _, [] => .gt
  | a :: as, b :: bs => (compare a b).then (compareBytes as bs)

/-- The base64 digit of a value below 64. -/
def base64Digit (n : Nat) : Char :=
  if n < 26 then Char.ofNat (65 + n)
  else if n < 52 then Char.ofNat (71 + n)
  else if n < 62 then Char.ofNat (n - 4)
  else if n = 62 then '+' else '/'

/-- Standard base64 of a list of bytes, padded with `=` to whole groups of four. -/
def base64Chars : List UInt8 → List Char
  | [] => []
  | [a] =>
    [base64Digit (a.toNat / 4), base64Digit (a.toNat % 4 * 16), '=', '=']
  | [a, b] =>
    [base64Digit (a.toNat / 4), base64Digit (a.toNat % 4 * 16 + b.toNat / 16),
      base64Digit (b.toNat % 16 * 4), '=']
  | a :: b :: c :: rest =>
    base64Digit (a.toNat / 4) :: base64Digit (a.toNat % 4 * 16 + b.toNat / 16) ::
      base64Digit (b.toNat % 16 * 4 + c.toNat / 64) :: base64Digit (c.toNat % 64) ::
      base64Chars rest

namespace Bytes

/-- The UTF-8 encoding of a string. -/
def ofString (s : String) : Bytes := ⟨s.toUTF8.toList⟩

instance : Coe String Bytes := ⟨ofString⟩

instance : Append Bytes := ⟨fun a b => ⟨a.toList ++ b.toList⟩⟩

instance : Ord Bytes := ⟨fun a b => compareBytes a.toList b.toList⟩

/-- Whether there are no bytes. -/
def isEmpty (b : Bytes) : Bool := b.toList.isEmpty

/-- The bytes read as characters. -/
def pieces (b : Bytes) : List Piece := piecesOf b.toList

/-- The text with each stray byte shown as U+FFFD. -/
def lossy (b : Bytes) : String :=
  String.ofList (b.pieces.map fun
    | .char c => c
    | .stray _ => '�')

/-- The text as a string when it is UTF-8. -/
def toString? (b : Bytes) : Option String :=
  b.pieces.foldr (fun piece rest =>
    match piece, rest with
    | .char c, some cs => some (c :: cs)
    | _, _ => none) (some []) |>.map String.ofList

/-- Whether the text is UTF-8. -/
def isUtf8 (b : Bytes) : Bool := b.toString?.isSome

/-- The text between double quotes: characters written by `escape`, a stray byte as
`\xHH`. -/
def quote (b : Bytes) : String :=
  String.ofList ('"' :: b.pieces.flatMap (fun
    | .char c => escape c
    | .stray x => '\\' :: 'x' :: hexDigits x.toNat 2) ++ ['"'])

/-- The standard base64 of the bytes. -/
def base64 (b : Bytes) : String := String.ofList (base64Chars b.toList)

/-- Whether the text is one of the given words. -/
def isOneOf (b : Bytes) (words : List String) : Bool :=
  words.any fun word => ofString word == b

/-- Whether the text starts with a word. -/
def startsWith (b : Bytes) (word : String) : Bool :=
  let w := (ofString word).toList
  b.toList.take w.length == w

/-- Whether a word occurs in the text, byte for byte. -/
def contains (b : Bytes) (word : String) : Bool :=
  occursIn (ofString word).toList b.toList

end Bytes

end LosslessBuffer.Text
