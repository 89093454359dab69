import DocStore.Proofs.Text.Split
import DocStore.Text.FormUrlEncoded

/-!
# Form encoding undone

Reading gives back the pairs that were written, whatever characters are in them
(`FormUrlEncoded.decode_encode`).  Nothing that is written in a name or a value separates
pairs, or names from values.
-/

namespace DocStore.Text

/-! ## Bytes -/

theorem hexDigit?_upperHexDigit {n : Nat} (small : n < 16) :
    hexDigit? (upperHexDigit n) = some n := by
  have all : ∀ n : Fin 16, hexDigit? (upperHexDigit n) = some n.val := by decide
  exact all ⟨n, small⟩

theorem percentDecode_percentByte (byte : UInt8) (rest : List Char) :
    percentDecode (percentByte byte ++ rest) = byte :: percentDecode rest := by
  have bound : byte.toNat < 256 := byte.toNat_lt
  have whole : byte.toNat / 16 * 16 + byte.toNat % 16 = byte.toNat := by omega
  have back : UInt8.ofNat byte.toNat = byte := UInt8.ofNat_toNat
  simp only [percentByte, List.cons_append, List.nil_append, percentDecode,
    hexDigit?_upperHexDigit (show byte.toNat / 16 < 16 by omega),
    hexDigit?_upperHexDigit (show byte.toNat % 16 < 16 by omega), whole, back]

theorem percentDecode_percentBytes (bytes : List UInt8) (rest : List Char) :
    percentDecode (bytes.flatMap percentByte ++ rest) = bytes ++ percentDecode rest := by
  induction bytes with
  | nil => rfl
  | cons byte bytes ih =>
    rw [List.flatMap_cons, List.append_assoc, percentDecode_percentByte, ih, List.cons_append]

theorem percentDecode_cons {c : Char} (noPercent : c ≠ '%') (rest : List Char) :
    percentDecode (c :: rest) = charBytes c ++ percentDecode rest := by
  rw [percentDecode]
  exact fun _ _ _ percent => absurd percent noPercent

namespace Utf8

theorem encode_eq_flatMap (text : String) : encode text = text.toList.flatMap charBytes := by
  have bytes : text.toByteArray = text.toList.utf8Encode := by
    rw [← String.toByteArray_ofList, String.ofList_toList]
  rw [encode, bytes, List.utf8Encode, List.data_toByteArray]
  rfl

theorem decodeLossy_encode (text : String) : decodeLossy (encode text) = text := by
  rw [decodeLossy, decode_encode, List.map_map]
  have same : ((·.getD '\ufffd') ∘ some : Char → Char) = id := rfl
  rw [same, List.map_id, String.ofList_toList]

end Utf8

namespace FormUrlEncoded

/-! ## Names and values -/

/-- The characters that are written for one character. -/
def encodeChar (c : Char) : List Char :=
  if isPlain c then [c] else if c = ' ' then ['+'] else (charBytes c).flatMap percentByte

/-- What reading makes of a plus sign. -/
def plusToSpace (c : Char) : Char := if c = '+' then ' ' else c

theorem ne_of_isPlain {c : Char} (plain : isPlain c = true) :
    c ≠ '+' ∧ c ≠ '%' ∧ c ≠ '&' ∧ c ≠ '=' := by
  refine ⟨?_, ?_, ?_, ?_⟩ <;>
    · rintro rfl
      cases plain

theorem mem_percentByte {byte : UInt8} {c : Char} (member : c ∈ percentByte byte) :
    c ≠ '+' ∧ c ≠ '&' ∧ c ≠ '=' := by
  have digits : ∀ n : Fin 16, upperHexDigit n ≠ '+' ∧ upperHexDigit n ≠ '&' ∧
      upperHexDigit n ≠ '=' := by decide
  have bound : byte.toNat < 256 := byte.toNat_lt
  simp only [percentByte, List.mem_cons, List.not_mem_nil, or_false] at member
  rcases member with rfl | rfl | rfl
  · decide
  · exact digits ⟨byte.toNat / 16, by omega⟩
  · exact digits ⟨byte.toNat % 16, by omega⟩

/-- Nothing that is written for a name or a value separates anything. -/
theorem ne_of_mem_encodeComponent {text : String} {c : Char}
    (member : c ∈ encodeComponent text) : c ≠ '&' ∧ c ≠ '=' := by
  obtain ⟨original, _, written⟩ := List.mem_flatMap.1 member
  split at written
  · rename_i plain
    rw [List.mem_singleton.1 written]
    exact (ne_of_isPlain plain).2.2
  · split at written
    · rw [List.mem_singleton.1 written]
      decide
    · obtain ⟨byte, _, inside⟩ := List.mem_flatMap.1 written
      exact (mem_percentByte inside).2

theorem map_plusToSpace_percentBytes (bytes : List UInt8) :
    (bytes.flatMap percentByte).map plusToSpace = bytes.flatMap percentByte := by
  refine (List.map_congr_left fun c member => ?_).trans (List.map_id _)
  obtain ⟨byte, _, inside⟩ := List.mem_flatMap.1 member
  exact if_neg (mem_percentByte inside).1

/-- What is written for a character is read as its bytes. -/
theorem percentDecode_encodeChar (c : Char) (rest : List Char) :
    percentDecode ((encodeChar c).map plusToSpace ++ rest) = charBytes c ++ percentDecode rest := by
  unfold encodeChar
  split
  · rename_i plain
    obtain ⟨noPlus, noPercent, _⟩ := ne_of_isPlain plain
    rw [List.map_singleton, plusToSpace, if_neg noPlus, List.singleton_append,
      percentDecode_cons noPercent]
  · split
    · rename_i space
      subst space
      exact percentDecode_cons (by decide) rest
    · rw [map_plusToSpace_percentBytes, percentDecode_percentBytes]

theorem percentDecode_encodeChars (chars : List Char) :
    percentDecode ((chars.flatMap encodeChar).map plusToSpace) = chars.flatMap charBytes := by
  induction chars with
  | nil => rfl
  | cons c chars ih =>
    rw [List.flatMap_cons, List.map_append, percentDecode_encodeChar, ih, List.flatMap_cons]

theorem decodeComponent_encodeComponent (text : String) :
    decodeComponent (encodeComponent text) = text := by
  have bytes : percentDecode ((encodeComponent text).map plusToSpace) = Utf8.encode text := by
    rw [Utf8.encode_eq_flatMap]
    exact percentDecode_encodeChars text.toList
  rw [decodeComponent]
  exact (congrArg Utf8.decodeLossy bytes).trans (Utf8.decodeLossy_encode text)

/-! ## Pairs -/

theorem decodePair_encodePair (pair : String × String) : decodePair (encodePair pair) = pair := by
  have noEquals : ∀ c ∈ encodeComponent pair.1, (c ≠ '=' : Bool) = true := fun c member =>
    decide_eq_true (ne_of_mem_encodeComponent member).2
  have name : (encodePair pair).takeWhile (· ≠ '=') = encodeComponent pair.1 := by
    rw [encodePair, List.takeWhile_append_of_pos noEquals]
    simp
  have value : (encodePair pair).dropWhile (· ≠ '=') = '=' :: encodeComponent pair.2 := by
    rw [encodePair, List.dropWhile_append_of_pos noEquals]
    simp
  rw [decodePair, name, value, List.drop_one, List.tail_cons, decodeComponent_encodeComponent,
    decodeComponent_encodeComponent]

theorem amp_not_mem_encodePair (pair : String × String) : '&' ∉ encodePair pair := by
  intro member
  rcases List.mem_append.1 member with first | second
  · exact (ne_of_mem_encodeComponent first).1 rfl
  · rcases List.mem_cons.1 second with equals | second
    · cases equals
    · exact (ne_of_mem_encodeComponent second).1 rfl

/-- Reading undoes writing. -/
theorem decode_encode (pairs : List (String × String)) : decode (encode pairs) = pairs := by
  cases pairs with
  | nil => rfl
  | cons first rest =>
    have pieces : splitOn '&' (encode (first :: rest)) = (first :: rest).map encodePair := by
      refine splitOn_intercalate (by simp) fun piece member => ?_
      obtain ⟨pair, _, rfl⟩ := List.mem_map.1 member
      exact amp_not_mem_encodePair pair
    have nonempty : ∀ piece ∈ (first :: rest).map encodePair, (!piece.isEmpty) = true := by
      intro piece member
      obtain ⟨pair, _, rfl⟩ := List.mem_map.1 member
      simp [encodePair]
    rw [decode, pieces, List.filter_eq_self.2 nonempty, List.map_map]
    refine (List.map_congr_left fun pair _ => ?_).trans (List.map_id _)
    exact decodePair_encodePair pair

end FormUrlEncoded
end DocStore.Text
