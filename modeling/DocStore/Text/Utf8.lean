/-!
# Reading UTF-8

Bytes read as characters, where bytes that belong to no character leave a gap.
A gap stands for the longest piece that starts like a character and goes on as
none, so the same bytes always leave the same number of gaps.
-/

namespace DocStore.Text.Utf8

/-- A character of which some bytes are still to come. -/
structure Pending where
  /-- The bits read so far. -/
  value : Nat
  /-- How many bytes are to come, at least one. -/
  missing : Nat
  /-- The least next byte that goes on with the character. -/
  low : Nat
  /-- The greatest next byte that goes on with the character. -/
  high : Nat

/-- What a byte at the start of a character announces. -/
inductive Start where
  /-- A character of its own. -/
  | whole (c : Char)
  /-- The first byte of a longer character. -/
  | more (pending : Pending)
  /-- No character starts with this byte. -/
  | stray

/-- Classifies the first byte of a character.  The range of the second byte shuts
out overlong spellings, surrogates and code points beyond the last plane. -/
def start (byte : Nat) : Start :=
  if byte < 0x80 then .whole (Char.ofNat byte)
  else if 0xC2 ≤ byte ∧ byte ≤ 0xDF then .more ⟨byte - 0xC0, 1, 0x80, 0xBF⟩
  else if byte = 0xE0 then .more ⟨0, 2, 0xA0, 0xBF⟩
  else if byte = 0xED then .more ⟨0xD, 2, 0x80, 0x9F⟩
  else if 0xE1 ≤ byte ∧ byte ≤ 0xEF then .more ⟨byte - 0xE0, 2, 0x80, 0xBF⟩
  else if byte = 0xF0 then .more ⟨0, 3, 0x90, 0xBF⟩
  else if byte = 0xF4 then .more ⟨4, 3, 0x80, 0x8F⟩
  else if 0xF1 ≤ byte ∧ byte ≤ 0xF3 then .more ⟨byte - 0xF0, 3, 0x80, 0xBF⟩
  else .stray

/-- Reads bytes after a character that may still be pending. -/
def pieces : Option Pending → List UInt8 → List (Option Char)
  | none, [] => []
  | some _, [] => [none]
  | none, byte :: rest =>
    match start byte.toNat with
    | .whole c => some c :: pieces none rest
    | .more pending => pieces (some pending) rest
    | .stray => none :: pieces none rest
  | some pending, byte :: rest =>
    let b := byte.toNat
    if pending.low ≤ b ∧ b ≤ pending.high then
      let value := pending.value * 64 + (b - 0x80)
      if pending.missing = 1 then some (Char.ofNat value) :: pieces none rest
      else pieces (some ⟨value, pending.missing - 1, 0x80, 0xBF⟩) rest
    else
      match start b with
      | .whole c => none :: some c :: pieces none rest
      | .more next => none :: pieces (some next) rest
      | .stray => none :: none :: pieces none rest

/-- Where bytes are no character. -/
structure Fault where
  /-- How many bytes come before it. -/
  index : Nat
  /-- How many bytes cannot be read, unless the end cuts a character off. -/
  length : Option Nat
  deriving DecidableEq, Repr

/-- The first fault behind some bytes that are read; of a character that is still pending,
some bytes are read too. -/
def faultFrom? (index : Nat) : Option (Pending × Nat) → List UInt8 → Option Fault
  | none, [] => none
  | some _, [] => some ⟨index, none⟩
  | none, byte :: rest =>
    match start byte.toNat with
    | .whole _ => faultFrom? (index + 1) none rest
    | .more pending => faultFrom? index (some (pending, 1)) rest
    | .stray => some ⟨index, some 1⟩
  | some (pending, taken), byte :: rest =>
    let b := byte.toNat
    if pending.low ≤ b ∧ b ≤ pending.high then
      if pending.missing = 1 then faultFrom? (index + taken + 1) none rest
      else faultFrom? index (some (⟨pending.value, pending.missing - 1, 0x80, 0xBF⟩, taken + 1)) rest
    else some ⟨index, some taken⟩

/-- The first place where bytes are no character, if there is one. -/
def fault? (bytes : List UInt8) : Option Fault := faultFrom? 0 none bytes

/-- The characters of the bytes, with gaps where the bytes are no character. -/
def decode (bytes : List UInt8) : List (Option Char) :=
  match String.fromUTF8? ⟨bytes.toArray⟩ with
  | some text => text.toList.map some
  | none => pieces none bytes

/-- The text of the bytes; a gap shows as the replacement character. -/
def decodeLossy (bytes : List UInt8) : String :=
  String.ofList ((decode bytes).map (·.getD '\ufffd'))

/-- The bytes of a text. -/
def encode (text : String) : List UInt8 :=
  text.toByteArray.data.toList

/-- Reading undoes writing. -/
theorem decode_encode (text : String) : decode (encode text) = text.toList.map some := by
  have valid : String.fromUTF8? ⟨(encode text).toArray⟩ = some text := by
    unfold String.fromUTF8? encode
    simp [text.isValidUTF8]
    rfl
  simp [decode, valid]

example : pieces none [0xE2, 0x82, 0xAC] = [some '€'] := by decide +kernel
example : pieces none [0xE2, 0x82, 0x41] = [none, some 'A'] := by decide +kernel
example : pieces none [0xED, 0xA0, 0x80] = [none, none, none] := by decide +kernel
example : fault? [0x41, 0xE2, 0x82, 0x41] = some ⟨1, some 2⟩ := by decide +kernel
example : fault? [0x41, 0xE2, 0x82] = some ⟨1, none⟩ := by decide +kernel

end DocStore.Text.Utf8
