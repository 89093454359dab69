import DocStore.Text.Base64Url

/-!
# Base64url undone

Reading gives back the bytes that were written (`Base64Url.decode_encode`).  What is written
consists of letters of the alphabet (`Base64Url.inAlphabet_encode`).
-/

namespace DocStore.Text.Base64Url

/-- A letter stands for the number that it was chosen for. -/
theorem sextet?_letter {n : Nat} (small : n < 64) : sextet? (letter n) = some n := by
  have all : ∀ n : Fin 64, sextet? (letter n) = some n.val := by decide
  exact all ⟨n, small⟩

/-- The byte of a number that a byte was packed into. -/
theorem ofNat_eq_of_mod {n : Nat} {byte : UInt8} (same : n % 256 = byte.toNat) :
    UInt8.ofNat n = byte := by
  apply UInt8.toNat_inj.1
  rw [UInt8.toNat_ofNat']
  exact same

theorem decode_one (a : UInt8) : decode (encode [a]) = some [a] := by
  have bound : a.toNat < 256 := a.toNat_lt
  have packed : a.toNat * 16 / 64 * 64 + a.toNat * 16 % 64 = a.toNat * 16 := by omega
  have byte : UInt8.ofNat (a.toNat * 16 / 16) = a := ofNat_eq_of_mod (by omega)
  have clear : a.toNat * 16 % 16 = 0 := by omega
  rw [encode, decode, sextet?_letter (by omega), sextet?_letter (by omega)]
  simp only [Option.bind_eq_bind, Option.bind_some, packed, clear, byte, if_true]

theorem decode_two (a b : UInt8) : decode (encode [a, b]) = some [a, b] := by
  have first : a.toNat < 256 := a.toNat_lt
  have second : b.toNat < 256 := b.toNat_lt
  generalize bitsEq : (a.toNat * 256 + b.toNat) * 4 = bits
  have packed : (bits / 4096 * 64 + bits / 64 % 64) * 64 + bits % 64 = bits := by omega
  have clear : bits % 4 = 0 := by omega
  have firstByte : UInt8.ofNat (bits / 1024) = a := ofNat_eq_of_mod (by omega)
  have secondByte : UInt8.ofNat (bits / 4) = b := ofNat_eq_of_mod (by omega)
  rw [encode, bitsEq, decode, sextet?_letter (by omega), sextet?_letter (by omega),
    sextet?_letter (by omega)]
  simp only [Option.bind_eq_bind, Option.bind_some, packed, clear, firstByte, secondByte, if_true]

theorem decode_three (a b c : UInt8) (rest : List UInt8) :
    decode (encode (a :: b :: c :: rest)) =
      (decode (encode rest)).map fun bytes => a :: b :: c :: bytes := by
  have first : a.toNat < 256 := a.toNat_lt
  have second : b.toNat < 256 := b.toNat_lt
  have third : c.toNat < 256 := c.toNat_lt
  generalize bitsEq : (a.toNat * 256 + b.toNat) * 256 + c.toNat = bits
  have packed : ((bits / 262144 * 64 + bits / 4096 % 64) * 64 + bits / 64 % 64) * 64 +
      bits % 64 = bits := by omega
  have firstByte : UInt8.ofNat (bits / 65536) = a := ofNat_eq_of_mod (by omega)
  have secondByte : UInt8.ofNat (bits / 256) = b := ofNat_eq_of_mod (by omega)
  have thirdByte : UInt8.ofNat bits = c := ofNat_eq_of_mod (by omega)
  rw [encode, bitsEq, decode, sextet?_letter (by omega), sextet?_letter (by omega),
    sextet?_letter (by omega), sextet?_letter (by omega)]
  simp only [Option.bind_eq_bind, Option.bind_some, packed, firstByte, secondByte, thirdByte]
  cases decode (encode rest) <;> rfl

/-- Reading undoes writing. -/
theorem decode_encode (bytes : List UInt8) : decode (encode bytes) = some bytes := by
  induction bytes using encode.induct with
  | case1 => rfl
  | case2 a => exact decode_one a
  | case3 a b => exact decode_two a b
  | case4 a b c rest ih => rw [decode_three, ih, Option.map_some]

theorem encode_ne_nil {bytes : List UInt8} (nonempty : bytes ≠ []) : encode bytes ≠ [] := by
  intro nothing
  apply nonempty
  have back := decode_encode bytes
  rw [nothing] at back
  cases back
  rfl

/-! ## The alphabet -/

/-- The letters, digits and the two marks that texts are written with. -/
def InAlphabet (c : Char) : Prop :=
  ('A' ≤ c ∧ c ≤ 'Z') ∨ ('a' ≤ c ∧ c ≤ 'z') ∨ ('0' ≤ c ∧ c ≤ '9') ∨ c = '-' ∨ c = '_'

instance : DecidablePred InAlphabet := fun c => by unfold InAlphabet; infer_instance

theorem inAlphabet_letter (n : Nat) : InAlphabet (letter n) := by
  by_cases small : n < 63
  · have all : ∀ n : Fin 63, InAlphabet (letter n) := by decide
    exact all ⟨n, small⟩
  · have last : letter n = '_' := by
      rw [letter, if_neg (by omega), if_neg (by omega), if_neg (by omega), if_neg (by omega)]
    rw [last]
    decide

theorem inAlphabet_encode (bytes : List UInt8) : ∀ c ∈ encode bytes, InAlphabet c := by
  induction bytes using encode.induct with
  | case1 => exact fun _ none => absurd none List.not_mem_nil
  | case2 a => simp [encode, inAlphabet_letter]
  | case3 a b => simp [encode, inAlphabet_letter]
  | case4 a b c rest ih =>
    simp only [encode, List.forall_mem_cons]
    exact ⟨inAlphabet_letter _, inAlphabet_letter _, inAlphabet_letter _, inAlphabet_letter _, ih⟩

end DocStore.Text.Base64Url
