import LosslessBuffer.Scenario.Key
/-!
# Scenario keys as bytes

A request names its target scenario as bytes, while a parameter table names its scenarios
as strings. The two meet through `Bytes.ofString`, the UTF-8 encoding. A scenario key is
written in ASCII (`ScenarioKey.ascii_of_parse`), each of whose characters is one byte that
reads back as itself, so the bytes of a key's name read back as the same key
(`ScenarioKey.ofBytes_ofString`).

The converse holds too: bytes that read as ASCII characters only are the bytes of those
characters (`Bytes.eq_ofString_lossy`). A stray byte shows as U+FFFD and a character encoded
in two or more bytes lies at U+0080 or above, so neither can stand behind an ASCII
character. Binding keys are read as characters, so this is what lets a key grammar of
ASCII characters be stated over the bytes of the key.
-/

set_option autoImplicit false

namespace LosslessBuffer.Text

/-! ## The bytes of a string -/

theorem byteArray_toList_loop (bs : ByteArray) (i : Nat) (r : List UInt8) :
    ByteArray.toList.loop bs i r = r.reverse ++ bs.data.toList.drop i := by
  fun_induction ByteArray.toList.loop bs i r with
  | case1 i r below ih =>
    have within : i < bs.data.toList.length := by
      rw [Array.length_toList]
      exact below
    have byte : bs.get! i = bs.data.toList[i] := by
      obtain ⟨data⟩ := bs
      show data[i]! = _
      rw [getElem!_pos data i within, Array.getElem_toList]
    rw [ih, List.reverse_cons, List.append_assoc, List.singleton_append, byte,
      ← List.drop_eq_getElem_cons within]
  | case2 i r atEnd =>
    rw [List.drop_of_length_le (by rw [Array.length_toList]; exact Nat.le_of_not_lt atEnd),
      List.append_nil]

theorem byteArray_toList (bs : ByteArray) : bs.toList = bs.data.toList := by
  rw [ByteArray.toList, byteArray_toList_loop, List.reverse_nil, List.nil_append, List.drop_zero]

/-- The bytes of a string are the UTF-8 encodings of its characters, in order. -/
theorem Bytes.toList_ofString (s : String) :
    (Bytes.ofString s).toList = s.toList.flatMap String.utf8EncodeChar := by
  have encoded : s.toByteArray = s.toList.utf8Encode := by
    rw [← String.toByteArray_ofList, String.ofList_toList]
  rw [Bytes.ofString, String.toUTF8_eq_toByteArray, encoded, byteArray_toList, List.utf8Encode,
    List.toList_data_toByteArray]

/-- The bytes of a string are empty exactly when it has no characters. -/
theorem Bytes.isEmpty_ofString (s : String) : (Bytes.ofString s).isEmpty = s.toList.isEmpty := by
  rw [Bytes.isEmpty, toList_ofString]
  cases s.toList with
  | nil => rfl
  | cons c rest =>
    rw [List.flatMap_cons, List.isEmpty_cons, List.isEmpty_eq_false_iff]
    exact fun empty => String.utf8EncodeChar_ne_nil (List.append_eq_nil_iff.1 empty).1

/-! ## ASCII text -/

/-- A character below 128, encoded as one byte. -/
def IsAscii (c : Char) : Prop := c.val ≤ 127

instance : DecidablePred IsAscii := fun c => inferInstanceAs (Decidable (c.val ≤ 127))

theorem IsAscii.of_isAsciiDigit {c : Char} (h : isAsciiDigit c = true) : IsAscii c := by
  simp only [isAsciiDigit, Bool.and_eq_true, decide_eq_true_eq] at h
  exact UInt32.le_trans h.2 (by decide)

/-- A run of digits in front of ASCII characters leaves the whole ASCII. -/
theorem ascii_of_dropWhile {l rest : List Char} (h : l.dropWhile isAsciiDigit = rest)
    (ascii : ∀ c ∈ rest, IsAscii c) : ∀ c ∈ l, IsAscii c := by
  intro c member
  rw [← List.takeWhile_append_dropWhile (p := isAsciiDigit) (l := l), h, List.mem_append] at member
  rcases member with digit | later
  · exact IsAscii.of_isAsciiDigit (List.all_eq_true.1 List.all_takeWhile c digit)
  · exact ascii c later

/-- The byte of an ASCII character reads as that character, whatever follows it. -/
theorem leadingChar_ascii {c : Char} (ascii : IsAscii c) (rest : List UInt8) :
    leadingChar (c.val.toUInt8 :: rest) = some (c, 1) := by
  have small : c.val.toNat ≤ 127 := UInt32.le_iff_toNat_le.1 ascii
  have byte : c.val.toUInt8.toNat = c.toNat := by
    simp only [UInt32.toNat_toUInt8, Char.toNat]
    omega
  have below : c.toNat < 0x80 := by
    simp only [Char.toNat]
    omega
  simp only [leadingChar, encodingWidth, byte, if_pos below, Char.ofNat_toNat, ↓reduceIte]

theorem piecesOf_ascii {l : List Char} (ascii : ∀ c ∈ l, IsAscii c) :
    piecesOf (l.flatMap String.utf8EncodeChar) = l.map .char := by
  induction l with
  | nil => simp [piecesOf]
  | cons c rest ih =>
    have one := Char.utf8Size_eq_one_iff.2 (ascii c List.mem_cons_self)
    rw [List.flatMap_cons, String.utf8EncodeChar_eq_singleton one, List.singleton_append, piecesOf,
      leadingChar_ascii (ascii c List.mem_cons_self), List.map_cons]
    exact congrArg (Piece.char c :: ·) (ih fun c member => ascii c (List.mem_cons_of_mem _ member))

/-- An ASCII string reads back from its bytes. -/
theorem Bytes.toString?_ofString {s : String} (ascii : ∀ c ∈ s.toList, IsAscii c) :
    (Bytes.ofString s).toString? = some s := by
  obtain ⟨l, rfl⟩ : ∃ l, s = String.ofList l := ⟨s.toList, String.ofList_toList.symm⟩
  rw [String.toList_ofList] at ascii
  rw [Bytes.toString?, Bytes.pieces, toList_ofString, String.toList_ofList, piecesOf_ascii ascii,
    List.foldr_map, ← Option.map_some]
  congr 1
  -- each character is put back in front of the characters read after it
  clear ascii
  induction l with
  | nil => rfl
  | cons c rest ih => rw [List.foldr_cons, ih]

/-- The bytes of an ASCII string read back as that string. -/
theorem Bytes.lossy_ofString {s : String} (ascii : ∀ c ∈ s.toList, IsAscii c) :
    (Bytes.ofString s).lossy = s := by
  obtain ⟨l, rfl⟩ : ∃ l, s = String.ofList l := ⟨s.toList, String.ofList_toList.symm⟩
  rw [String.toList_ofList] at ascii
  rw [Bytes.lossy, Bytes.pieces, Bytes.toList_ofString, String.toList_ofList, piecesOf_ascii ascii,
    List.map_map]
  exact congrArg String.ofList (List.map_id' l)

/-! ## Bytes that read as ASCII -/

theorem toNat_charOfNat {n : Nat} (valid : n.isValidChar) : (Char.ofNat n).toNat = n := by
  have unfolded : Char.ofNat n = Char.ofNatAux n valid := dif_pos valid
  rw [unfolded]
  rfl

theorem encodingWidth_eq_one {n : Nat} : encodingWidth n = 1 ↔ n < 0x80 := by
  unfold encodingWidth
  split
  · simp only [true_iff]
    assumption
  · constructor
    · intro h
      split at h <;> (try split at h) <;> (try split at h) <;> simp at h
    · intro h
      omega

/-- An ASCII character read from bytes is one byte, itself. -/
theorem eq_of_leadingChar_ascii {b : UInt8} {rest : List UInt8} {c : Char} {width : Nat}
    (h : leadingChar (b :: rest) = some (c, width)) (ascii : IsAscii c) :
    width = 1 ∧ c.val.toUInt8 = b := by
  unfold leadingChar at h
  dsimp -zeta only at h
  extract_lets n w body code least at h
  have small : c.toNat ≤ 127 := UInt32.le_iff_toNat_le.1 ascii
  split at h
  next one =>
    cases h
    have below : n < 0x80 := encodingWidth_eq_one.1 one
    have same : (Char.ofNat n).toNat = n := toNat_charOfNat (Or.inl (by omega))
    refine ⟨rfl, UInt8.toNat_inj.1 ?_⟩
    simp only [UInt32.toNat_toUInt8]
    show (Char.ofNat n).toNat % 256 = n
    omega
  next many =>
    split at h
    · cases h
    · split at h
      · cases h
      next valid =>
        obtain ⟨rfl, -⟩ := Prod.mk.inj (Option.some.inj h)
        have atLeast : 0x80 ≤ least := by
          show 0x80 ≤ (if w = 2 then 128 else if w = 3 then 2048 else 65536)
          split <;> (try split) <;> omega
        have same : (Char.ofNat code).toNat = code :=
          toNat_charOfNat (by unfold Nat.isValidChar; omega)
        omega

/-- Bytes that read as ASCII characters are the encodings of those characters, one byte each;
the induction follows the reading of the bytes (`piecesOf`). -/
theorem toList_of_lossy_ascii (bytes : List UInt8)
    (ascii : ∀ c ∈ (Bytes.lossy ⟨bytes⟩).toList, IsAscii c) :
    bytes = (Bytes.lossy ⟨bytes⟩).toList.flatMap String.utf8EncodeChar := by
  induction bytes using piecesOf.induct with
  | case1 =>
    simp only [Bytes.lossy, Bytes.pieces, String.toList_ofList]
    rw [piecesOf]
    rfl
  | case2 b rest c width found ih =>
    have shown : (Bytes.lossy ⟨b :: rest⟩).toList =
        c :: (Bytes.lossy ⟨rest.drop (width - 1)⟩).toList := by
      simp only [Bytes.lossy, Bytes.pieces, String.toList_ofList]
      rw [piecesOf, found]
      rfl
    rw [shown] at ascii ⊢
    have first := ascii c List.mem_cons_self
    obtain ⟨rfl, byte⟩ := eq_of_leadingChar_ascii found first
    rw [Nat.sub_self, List.drop_zero] at ih ⊢
    rw [List.flatMap_cons, String.utf8EncodeChar_eq_singleton (Char.utf8Size_eq_one_iff.2 first),
      byte, List.singleton_append, ← ih fun c member => ascii c (List.mem_cons_of_mem _ member)]
  | case3 b rest missing ih =>
    have shown : (Bytes.lossy ⟨b :: rest⟩).toList = '�' :: (Bytes.lossy ⟨rest⟩).toList := by
      simp only [Bytes.lossy, Bytes.pieces, String.toList_ofList]
      rw [piecesOf, missing]
      rfl
    rw [shown] at ascii
    exact absurd (ascii '�' List.mem_cons_self) (by decide)

/-- Bytes that read as ASCII characters only are the bytes of the text they read as. -/
theorem Bytes.eq_ofString_lossy {b : Bytes} (ascii : ∀ c ∈ b.lossy.toList, IsAscii c) :
    b = Bytes.ofString b.lossy := by
  obtain ⟨bytes⟩ := b
  rw [Bytes.mk.injEq, Bytes.toList_ofString]
  exact toList_of_lossy_ascii bytes ascii

end LosslessBuffer.Text

namespace LosslessBuffer.ScenarioKey

open LosslessBuffer.Text

/-- A scenario key is written in ASCII: digits, `_`, digits and `m`. -/
theorem ascii_of_parse {s : String} {k : ScenarioKey} (h : parse s = .ok k) :
    ∀ c ∈ s.toList, IsAscii c := by
  unfold parse at h
  simp only at h
  split at h
  next rest speedSplit =>
    split at h
    next lengthSplit =>
      refine ascii_of_dropWhile speedSplit fun c member => ?_
      rcases List.mem_cons.1 member with rfl | later
      · decide
      · refine ascii_of_dropWhile lengthSplit (fun c last => ?_) c later
        rw [List.mem_singleton.1 last]
        decide
    next => cases h
  next => cases h

/-- The bytes of a key's name read back as the key. -/
theorem ofBytes_ofString {s : String} {k : ScenarioKey} (h : parse s = .ok k) :
    ofBytes (Bytes.ofString s) = .ok k := by
  rw [ofBytes, Bytes.toString?_ofString (ascii_of_parse h)]
  exact h

end LosslessBuffer.ScenarioKey
