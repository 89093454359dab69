import DocStore.Text.Hex

/-!
# Percent encoding

A byte spelled as a percent sign and two hexadecimal digits.  Reading leaves a
percent sign alone that no two digits follow.
-/

namespace DocStore.Text

/-- A byte as a percent sign and two hexadecimal digits. -/
def percentByte (byte : UInt8) : List Char :=
  ['%', upperHexDigit (byte.toNat / 16), upperHexDigit (byte.toNat % 16)]

/-- The UTF-8 bytes of a character. -/
def charBytes (c : Char) : List UInt8 := String.utf8EncodeChar c

/-- The bytes of a text in which `%XX` spells a byte. -/
def percentDecode : List Char → List UInt8
  | [] => []
  | '%' :: high :: low :: rest =>
    match hexDigit? high, hexDigit? low with
    | some h, some l => UInt8.ofNat (h * 16 + l) :: percentDecode rest
    | _, _ => charBytes '%' ++ percentDecode (high :: low :: rest)
  | c :: rest => charBytes c ++ percentDecode rest

/-- A text in which the bytes of every character of the set are spelled `%XX`. -/
def percentEncode (inSet : Char → Bool) (chars : List Char) : List Char :=
  chars.flatMap fun c => if inSet c then (charBytes c).flatMap percentByte else [c]

end DocStore.Text
