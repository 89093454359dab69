/-!
# URL-safe base64 without padding

Three bytes become four characters of a 64-letter alphabet that needs no escape
in a URL; one or two bytes at the end become two or three characters.  Reading
accepts exactly what writing produces: unused bits must be zero.
-/

namespace DocStore.Text.Base64Url

/-- The letter of a six-bit number. -/
def letter (n : Nat) : Char :=
  if n < 26 then Char.ofNat ('A'.toNat + n)
  else if n < 52 then Char.ofNat ('a'.toNat + (n - 26))
  else if n < 62 then Char.ofNat ('0'.toNat + (n - 52))
  else if n = 62 then '-'
  else '_'

/-- The six-bit number of a letter. -/
def sextet? (c : Char) : Option Nat :=
  if 'A' ≤ c ∧ c ≤ 'Z' then some (c.toNat - 'A'.toNat)
  else if 'a' ≤ c ∧ c ≤ 'z' then some (c.toNat - 'a'.toNat + 26)
  else if '0' ≤ c ∧ c ≤ '9' then some (c.toNat - '0'.toNat + 52)
  else if c = '-' then some 62
  else if c = '_' then some 63
  else none

/-- Writes bytes. -/
def encode : List UInt8 → List Char
  | [] => []
  | [a] =>
    let bits := a.toNat * 16
    [letter (bits / 64), letter (bits % 64)]
  | [a, b] =>
    let bits := (a.toNat * 256 + b.toNat) * 4
    [letter (bits / 4096), letter (bits / 64 % 64), letter (bits % 64)]
  | a :: b :: c :: rest =>
    let bits := (a.toNat * 256 + b.toNat) * 256 + c.toNat
    letter (bits / 262144) :: letter (bits / 4096 % 64) :: letter (bits / 64 % 64) ::
      letter (bits % 64) :: encode rest

/-- Reads bytes. -/
def decode : List Char → Option (List UInt8)
  | [] => some []
  | [_] => none
  | [a, b] => do
    let bits := (← sextet? a) * 64 + (← sextet? b)
    if bits % 16 = 0 then some [UInt8.ofNat (bits / 16)] else none
  | [a, b, c] => do
    let bits := ((← sextet? a) * 64 + (← sextet? b)) * 64 + (← sextet? c)
    if bits % 4 = 0 then some [UInt8.ofNat (bits / 1024), UInt8.ofNat (bits / 4)] else none
  | a :: b :: c :: d :: rest => do
    let bits := (((← sextet? a) * 64 + (← sextet? b)) * 64 + (← sextet? c)) * 64 + (← sextet? d)
    let bytes ← decode rest
    some (UInt8.ofNat (bits / 65536) :: UInt8.ofNat (bits / 256) :: UInt8.ofNat bits :: bytes)

example : encode [104, 105] = "aGk".toList := by decide +kernel
example : decode "aGk".toList = some [104, 105] := by decide +kernel
example : decode "aGl".toList = none := by decide +kernel

end DocStore.Text.Base64Url
