import Mathlib.Algebra.Group.Int.Defs
import DocStore.Json.Reader
import DocStore.Json.Printer

/-!
# Integers read back

The decimal numeral of an integer of 64 bits, signed or not, is read as this integer
(`Reader.valueWith_showInt`), whatever reads the items of arrays.
-/

namespace DocStore
namespace Json

open Text.Numeral (showNat showInt digit? max64)

namespace Input

/-- Characters as input without gaps. -/
def written (chars : List Char) : Input := chars.map some

@[simp] theorem written_nil : written [] = [] := rfl

@[simp] theorem written_cons (c : Char) (chars : List Char) :
    written (c :: chars) = some c :: written chars := rfl

@[simp] theorem written_append (left right : List Char) :
    written (left ++ right) = written left ++ written right := List.map_append

@[simp] theorem length_written (chars : List Char) : (written chars).length = chars.length :=
  List.length_map some

/-- What may follow a value: the end, or what separates and closes. -/
def EndsValue : Input → Prop
  | [] => True
  | some c :: _ => c = ',' ∨ c = ']' ∨ c = '\x7d'
  | none :: _ => False

end Input

namespace Numeral

/-- The digits of a number, the greatest power of ten first. -/
def digitsOf (n : Nat) : List Nat := (showNat n).map fun c => c.toNat - '0'.toNat

/-- Digits that make a number of 64 bits all count. -/
theorem gather_of_fits {digits : List Nat} {start : Nat}
    (fits : digits.foldl (fun value digit => value * 10 + digit) start ≤ max64) :
    gather start digits = (digits.foldl (fun value digit => value * 10 + digit) start, 0) := by
  have grows : ∀ (digits : List Nat) (start : Nat),
      start ≤ digits.foldl (fun value digit => value * 10 + digit) start := by
    intro digits
    induction digits with
    | nil => exact fun start => Nat.le_refl start
    | cons digit rest ih =>
      intro start
      have later := ih (start * 10 + digit)
      rw [List.foldl_cons]
      omega
  induction digits generalizing start with
  | nil => rfl
  | cons digit rest ih =>
    have small : start * 10 + digit ≤ max64 := Nat.le_trans (grows rest _) fits
    rw [gather, if_pos small]
    exact ih fits

theorem foldl_digitsOf (n : Nat) :
    (digitsOf n).foldl (fun value digit => value * 10 + digit) 0 = n := by
  have back : Nat.ofDigitChars 10 (showNat n) 0 = n := Nat.ofDigitChars_ten_toDigits
  rw [Nat.ofDigitChars_eq_foldl] at back
  rw [digitsOf, List.foldl_map]
  simpa only [Nat.mul_comm] using back

theorem gather_digitsOf {n : Nat} (fits : n ≤ max64) : gather 0 (digitsOf n) = (n, 0) := by
  have all : gather 0 (digitsOf n) = (_, 0) := gather_of_fits (by rwa [foldl_digitsOf])
  rw [all, foldl_digitsOf]

/-- A number with several digits does not start with zero. -/
theorem head_digitsOf {n : Nat} (positive : 0 < n) :
    ∃ digit rest, digitsOf n = digit :: rest ∧ digit ≠ 0 := by
  induction n using Nat.strongRecOn with
  | ind n ih =>
    by_cases small : n < 10
    · refine ⟨n, [], ?_, by omega⟩
      rw [digitsOf, showNat, Nat.toDigits_of_lt_base small, List.map_singleton]
      exact congrArg (· :: []) (Nat.toNat_digitChar_sub_48_of_lt_ten small)
    · obtain ⟨digit, rest, front, nonzero⟩ := ih (n / 10) (by omega) (by omega)
      refine ⟨digit, rest ++ [n % 10], ?_, nonzero⟩
      have last : (n % 10).digitChar.toNat - '0'.toNat = n % 10 :=
        Nat.toNat_digitChar_sub_48_of_lt_ten (by omega)
      rw [digitsOf, showNat] at front ⊢
      rw [Nat.toDigits_of_base_le (by decide) (by omega), List.map_append, front,
        List.map_singleton, last]
      rfl

theorem digitsOf_zero : digitsOf 0 = [0] := by decide

end Numeral

namespace Reader

open Input (skipBlanks written EndsValue)
open Numeral (digitsOf)

/-! ## Digits -/

theorem digit?_of_isDigit {c : Char} (digit : c.isDigit = true) :
    digit? c = some (c.toNat - '0'.toNat) := by
  have range : '0' ≤ c ∧ c ≤ '9' := by
    simpa [Char.isDigit, Char.le_def] using digit
  rw [digit?, if_pos range]

/-- No digit starts what may follow a value. -/
theorem spanDigits_of_endsValue {rest : Input} (ends : EndsValue rest) :
    spanDigits rest = ([], rest) := by
  match rest, ends with
  | [], _ => rfl
  | some c :: rest, ends =>
    have noDigit : digit? c = none := by
      rcases ends with rfl | rfl | rfl <;> rfl
    rw [spanDigits, noDigit]

theorem spanDigits_written {chars : List Char} {rest : Input}
    (digits : ∀ c ∈ chars, c.isDigit = true) (ends : EndsValue rest) :
    spanDigits (written chars ++ rest) = (chars.map fun c => c.toNat - '0'.toNat, rest) := by
  induction chars with
  | nil => exact spanDigits_of_endsValue ends
  | cons c chars ih =>
    have first : digit? c = some (c.toNat - '0'.toNat) :=
      digit?_of_isDigit (digits c List.mem_cons_self)
    have others := ih fun d member => digits d (List.mem_cons_of_mem c member)
    rw [Input.written_cons, List.cons_append, spanDigits, first]
    simp only [others, List.map_cons]

theorem isDigit_of_mem_showNat {n : Nat} {c : Char} (member : c ∈ showNat n) :
    c.isDigit = true :=
  Nat.isDigit_of_mem_toDigits (by decide) (by decide) member

theorem whole?_showNat (n : Nat) {rest : Input} (ends : EndsValue rest) :
    whole? (written (showNat n) ++ rest) = some (digitsOf n, rest) := by
  have span : spanDigits (written (showNat n) ++ rest) = (digitsOf n, rest) :=
    spanDigits_written (fun c member => isDigit_of_mem_showNat member) ends
  rcases Nat.eq_zero_or_pos n with rfl | positive
  · rw [Numeral.digitsOf_zero] at span ⊢
    simp [whole?, digits?, span]
  · obtain ⟨digit, others, shape, nonzero⟩ := Numeral.head_digitsOf positive
    rw [shape] at span ⊢
    simp only [whole?, digits?, span, Option.bind_eq_bind, Option.bind_some]
    split
    · rename_i zero
      cases zero
      exact absurd rfl nonzero
    · rfl

theorem fraction?_of_endsValue {rest : Input} (ends : EndsValue rest) :
    fraction? rest = some (none, rest) := by
  match rest, ends with
  | [], _ => rfl
  | some c :: rest, ends => rcases ends with rfl | rfl | rfl <;> rfl

theorem exponent?_of_endsValue {rest : Input} (ends : EndsValue rest) :
    exponent? rest = some (none, rest) := by
  match rest, ends with
  | [], _ => rfl
  | some c :: rest, ends => rcases ends with rfl | rfl | rfl <;> rfl

theorem unsigned?_showNat (negative : Bool) (n : Nat) {rest : Input} (ends : EndsValue rest) :
    unsigned? negative (written (showNat n) ++ rest) =
      some (⟨negative, digitsOf n, none, none⟩, rest) := by
  rw [unsigned?, whole?_showNat n ends]
  simp [fraction?_of_endsValue ends, exponent?_of_endsValue ends]

/-! ## Numerals -/

/-- A numeral starts with a digit or a minus sign. -/
theorem showInt_eq_cons (n : Int) :
    ∃ c rest, showInt n = c :: rest ∧ (c = '-' ∨ c.isDigit = true) := by
  cases n with
  | ofNat n =>
    obtain ⟨c, rest, shape⟩ := List.exists_cons_of_ne_nil
      (show showNat n ≠ [] from Nat.toDigits_ne_nil)
    refine ⟨c, rest, shape, .inr (@isDigit_of_mem_showNat n c ?_)⟩
    rw [shape]
    exact List.mem_cons_self
  | negSucc n => exact ⟨'-', showNat (n + 1), rfl, .inl rfl⟩

theorem numeral?_of_isDigit {c : Char} (digit : c.isDigit = true) (rest : Input) :
    numeral? (some c :: rest) = unsigned? false (some c :: rest) := by
  unfold numeral?
  split
  · rename_i minus
    cases minus
    cases digit
  · rfl

/-- Numerals come after everything that starts otherwise. -/
theorem valueWith_numeral (inner : Option ValueReader) {c : Char}
    (start : c = '-' ∨ c.isDigit = true) (rest : Input) :
    valueWith inner (some c :: rest) =
      (numeral? (some c :: rest)).bind fun found => found.1.value?.map (·, found.2) := by
  have other : ∀ d : Char, d ≠ '-' → d.isDigit = false → c ≠ d := by
    rintro d notMinus notDigit rfl
    rcases start with minus | digit
    · exact notMinus minus
    · rw [notDigit] at digit
      cases digit
  have unblank : skipBlanks (some c :: rest) = some c :: rest := by
    unfold skipBlanks
    split <;> rename_i same <;> simp only [List.cons.injEq, Option.some.injEq] at same
    · exact absurd same.1 (other _ (by decide) (by decide))
    · exact absurd same.1 (other _ (by decide) (by decide))
    · exact absurd same.1 (other _ (by decide) (by decide))
    · exact absurd same.1 (other _ (by decide) (by decide))
    · rfl
  unfold valueWith
  rw [unblank]
  split <;> rename_i same <;> simp only [List.cons.injEq, Option.some.injEq] at same
  · exact absurd same.1 (other _ (by decide) (by decide))
  · exact absurd same.1 (other _ (by decide) (by decide))
  · exact absurd same.1 (other _ (by decide) (by decide))
  · exact absurd same.1 (other _ (by decide) (by decide))
  · exact absurd same.1 (other _ (by decide) (by decide))
  · exact absurd same.1 (other _ (by decide) (by decide))
  · cases numeral? (some c :: rest) with
    | none => rfl
    | some found =>
      simp only [Option.bind_eq_bind, Option.bind_some]
      cases found.1.value? <;> rfl

/-- An integer of 64 bits reads back. -/
theorem valueWith_showInt (inner : Option ValueReader) {n : Int} {rest : Input}
    (low : -2 ^ 63 ≤ n) (high : n < 2 ^ 64) (ends : EndsValue rest) :
    valueWith inner (written (showInt n) ++ rest) = some (.int n, rest) := by
  obtain ⟨c, others, shape, start⟩ := showInt_eq_cons n
  rw [shape, Input.written_cons, List.cons_append, valueWith_numeral inner start,
    ← List.cons_append, ← Input.written_cons, ← shape]
  cases n with
  | ofNat n =>
    have fits : n ≤ max64 := by
      simp only [Int.ofNat_eq_natCast] at high
      simp only [max64]
      omega
    have digit : c.isDigit = true := by
      refine @isDigit_of_mem_showNat n c ?_
      rw [show showNat n = c :: others from shape]
      exact List.mem_cons_self
    have read : numeral? (written (showInt (.ofNat n)) ++ rest) =
        some (⟨false, digitsOf n, none, none⟩, rest) := by
      rw [← unsigned?_showNat false n ends]
      rw [shape, show showNat n = c :: others from shape]
      exact numeral?_of_isDigit digit _
    rw [read]
    simp [Numeral.value?, Numeral.gather_digitsOf fits]
  | negSucc n =>
    have bound : n + 1 ≤ 2 ^ 63 := by omega
    have fits : n + 1 ≤ max64 := by
      simp only [max64]
      omega
    have read : numeral? (written (showInt (.negSucc n)) ++ rest) =
        some (⟨true, digitsOf (n + 1), none, none⟩, rest) :=
      unsigned?_showNat true (n + 1) ends
    have inRange : ¬(n + 1 = 0 ∨ n + 1 > 1 <<< 63) := by omega
    rw [read]
    simp only [Option.bind_some, Numeral.value?, Numeral.gather_digitsOf fits, if_true,
      if_neg inRange]
    rfl

end Reader
end Json
end DocStore
