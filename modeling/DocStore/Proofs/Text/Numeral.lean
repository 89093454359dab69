import Mathlib.Algebra.Group.Nat.Defs
import DocStore.Proofs.Json.Numeral
import DocStore.Text.Blank

/-!
# Numerals read back

The decimal digits of a number are read as this number, or are refused if it is too large
(`Numeral.readInt64_showNat`), and the numerals of zero are the only ones that are read as zero
(`Numeral.readNat_eq_zero_iff`).
-/

namespace DocStore.Text

namespace Numeral

open Json.Reader (digit?_of_isDigit isDigit_of_mem_showNat)

/-- The number that digits stand for, behind those that stand for the value. -/
def valueFrom (value : Nat) (chars : List Char) : Nat :=
  chars.foldl (fun value c => value * 10 + (c.toNat - '0'.toNat)) value

theorem le_valueFrom (value : Nat) (chars : List Char) : value ≤ valueFrom value chars := by
  induction chars generalizing value with
  | nil => exact Nat.le_refl value
  | cons c rest ih =>
    refine Nat.le_trans ?_ (ih (value * 10 + (c.toNat - '0'.toNat)))
    omega

theorem valueFrom_showNat (n : Nat) : valueFrom 0 (showNat n) = n := by
  have back : Nat.ofDigitChars 10 (showNat n) 0 = n := Nat.ofDigitChars_ten_toDigits
  rw [Nat.ofDigitChars_eq_foldl] at back
  simpa only [valueFrom, Nat.mul_comm] using back

/-- Digits are read as the number that they stand for, unless it is beyond the limit. -/
theorem digits_eq {limit value : Nat} {chars : List Char} (beyond : Failure)
    (small : value ≤ limit) (all : ∀ c ∈ chars, c.isDigit = true) :
    digits limit beyond value chars =
      if valueFrom value chars ≤ limit then .ok (valueFrom value chars) else .error beyond := by
  induction chars generalizing value with
  | nil => exact (if_pos small).symm
  | cons c rest ih =>
    have grows := le_valueFrom (value * 10 + (c.toNat - '0'.toNat)) rest
    rw [digits, digit?_of_isDigit (all c List.mem_cons_self)]
    simp only []
    split
    · rename_i fits
      exact ih fits fun d member => all d (List.mem_cons_of_mem c member)
    · rename_i large
      refine (if_neg fun fits => large ?_).symm
      exact Nat.le_trans grows fits

theorem le_of_digits {limit value result : Nat} {beyond : Failure} {chars : List Char}
    (small : value ≤ limit) (read : digits limit beyond value chars = .ok result) :
    result ≤ limit := by
  induction chars generalizing value with
  | nil =>
    cases read
    exact small
  | cons c rest ih =>
    unfold digits at read
    split at read
    · cases read
    · split at read
      · exact ih ‹_› read
      · cases read

/-- A numeral without a sign is read digit by digit. -/
theorem readInt_of_isDigit {low high : Nat} {chars : List Char} (some : chars ≠ [])
    (all : ∀ c ∈ chars, c.isDigit = true) :
    readInt low high chars = (digits high .tooLarge 0 chars).map Int.ofNat := by
  match chars, some with
  | [c], _ => rfl
  | c :: next :: rest, _ =>
    have noSign : ∀ sign others, sign.isDigit = false → c :: next :: rest ≠ sign :: others := by
      rintro sign others notDigit same
      rw [← (List.cons.inj same).1, all c List.mem_cons_self] at notDigit
      cases notDigit
    rw [readInt]
    · exact List.cons_ne_nil _ _
    · simp
    · exact fun others => noSign '+' others rfl
    · exact fun others => noSign '-' others rfl

theorem readInt64_showNat (n : Nat) :
    readInt64 (showNat n) = if n < 2 ^ 63 then .ok (n : Int) else .error .tooLarge := by
  have all : ∀ c ∈ showNat n, c.isDigit = true := fun c member => isDigit_of_mem_showNat member
  have some : showNat n ≠ [] := Nat.toDigits_ne_nil
  rw [readInt64, readInt_of_isDigit some all, digits_eq _ (Nat.zero_le _) all, valueFrom_showNat]
  by_cases fits : n < 2 ^ 63
  · rw [if_pos fits, if_pos (show n ≤ 1 <<< 63 - 1 by omega)]
    rfl
  · rw [if_neg fits, if_neg (show ¬ n ≤ 1 <<< 63 - 1 by omega)]
    rfl

/-- A number that is not too large is read back without a sign. -/
theorem readNat_showNat {high n : Nat} (fits : n ≤ high) : readNat high (showNat n) = .ok n := by
  have all : ∀ c ∈ showNat n, c.isDigit = true := fun c member => isDigit_of_mem_showNat member
  have whole : digits high .tooLarge 0 (showNat n) = .ok n := by
    rw [digits_eq _ (Nat.zero_le _) all, valueFrom_showNat, if_pos fits]
  unfold readNat
  split
  · rename_i none
    exact absurd none Nat.toDigits_ne_nil
  · rename_i c one
    rwa [one] at whole
  · rename_i rest _ signed
    exact absurd (all '+' (signed ▸ List.mem_cons_self)) (by decide)
  · exact whole

/-! ## Zero -/

/-- Whether a text is a numeral of zero without a minus sign: an optional plus sign and zeros. -/
def SpellsZero (chars : List Char) : Prop :=
  ∃ zeros, zeros ≠ [] ∧ (∀ c ∈ zeros, c = '0') ∧ (chars = zeros ∨ chars = '+' :: zeros)

theorem digit?_eq_zero_iff {c : Char} : digit? c = some 0 ↔ c = '0' := by
  constructor
  · intro zero
    unfold digit? at zero
    split at zero
    · rename_i range
      have lower : 48 ≤ c.toNat := UInt32.le_iff_toNat_le.1 range.1
      have value : c.toNat - 48 = 0 := Option.some.inj zero
      exact Char.toNat_inj.1 (by omega : c.toNat = 48)
    · cases zero
  · rintro rfl
    rfl

/-- Digits add nothing to nothing if all of them are zeros. -/
theorem digits_eq_zero_iff {limit value : Nat} {beyond : Failure} {chars : List Char} :
    digits limit beyond value chars = .ok 0 ↔ value = 0 ∧ ∀ c ∈ chars, c = '0' := by
  induction chars generalizing value with
  | nil => simp [digits]
  | cons c rest ih =>
    rw [digits, List.forall_mem_cons]
    cases read : digit? c with
    | none =>
      have other : c ≠ '0' := fun same => by
        rw [digit?_eq_zero_iff.2 same] at read
        cases read
      simp [other]
    | some d =>
      have zero : c = '0' ↔ d = 0 := by
        rw [← digit?_eq_zero_iff, read, Option.some_inj]
      rw [zero]
      simp only []
      split
      · rw [ih, ← and_assoc]
        exact and_congr_left fun _ => by omega
      · rename_i large
        have positive : ¬(value = 0 ∧ d = 0) := by omega
        simp only [reduceCtorEq, false_iff]
        exact fun ⟨nothing, first, _⟩ => positive ⟨nothing, first⟩

/-- A numeral is read as zero if it is one, whatever the limit. -/
theorem readNat_eq_zero_iff {high : Nat} {chars : List Char} :
    readNat high chars = .ok 0 ↔ SpellsZero chars := by
  constructor
  · intro read
    unfold readNat at read
    split at read
    · cases read
    · exact ⟨_, List.cons_ne_nil _ _, (digits_eq_zero_iff.1 read).2, .inl rfl⟩
    · rename_i some
      exact ⟨_, some, (digits_eq_zero_iff.1 read).2, .inr rfl⟩
    · rename_i some _ _
      exact ⟨_, some, (digits_eq_zero_iff.1 read).2, .inl rfl⟩
  · rintro ⟨zeros, some, all, rfl | rfl⟩
    · have whole : digits high .tooLarge 0 chars = .ok 0 := digits_eq_zero_iff.2 ⟨rfl, all⟩
      unfold readNat
      split
      · exact absurd rfl some
      · exact whole
      · exact absurd (all '+' List.mem_cons_self) (by decide)
      · exact whole
    · obtain ⟨first, rest, rfl⟩ := List.exists_cons_of_ne_nil some
      rw [readNat]
      · exact digits_eq_zero_iff.2 ⟨rfl, all⟩
      · simp

instance : DecidablePred SpellsZero := fun chars =>
  decidable_of_iff ((readNat 0 chars).toOption = some 0) <| by
    rw [← @readNat_eq_zero_iff 0 chars]
    cases readNat 0 chars <;> simp [Except.toOption]

/-- The digits of a number spell zero for zero alone. -/
theorem spellsZero_showNat_iff {n : Nat} : SpellsZero (showNat n) ↔ n = 0 := by
  rw [← @readNat_eq_zero_iff n, readNat_showNat (Nat.le_refl n), Except.ok.injEq]

/-- What is read lies in the range that was asked for. -/
theorem range_of_readInt {low high : Nat} {chars : List Char} {value : Int}
    (read : readInt low high chars = .ok value) : -(low : Int) ≤ value ∧ value ≤ high := by
  have unsigned : ∀ chars, (digits high .tooLarge 0 chars).map Int.ofNat = .ok value →
      -(low : Int) ≤ value ∧ value ≤ high := by
    intro chars mapped
    cases found : digits high .tooLarge 0 chars with
    | error failure => rw [found] at mapped; cases mapped
    | ok result =>
      rw [found] at mapped
      cases mapped
      have small := le_of_digits (Nat.zero_le high) found
      show -(low : Int) ≤ (result : Int) ∧ (result : Int) ≤ high
      omega
  unfold readInt at read
  split at read
  · cases read
  · exact unsigned _ read
  · exact unsigned _ read
  · rename_i rest long
    cases found : digits low .tooSmall 0 rest with
    | error failure => rw [found] at read; cases read
    | ok result =>
      rw [found] at read
      cases read
      have small := le_of_digits (Nat.zero_le low) found
      show -(low : Int) ≤ -(result : Int) ∧ -(result : Int) ≤ high
      omega
  · exact unsigned _ read

end Numeral

theorem not_isBlank_of_isDigit {c : Char} (digit : c.isDigit = true) : isBlank c = false := by
  have range : 48 ≤ c.toNat ∧ c.toNat ≤ 57 := by
    simpa [Char.isDigit, UInt32.le_iff_toNat_le] using digit
  simp [isBlank]
  omega

/-- What holds no white space is trimmed already. -/
theorem trim_eq_self {chars : List Char} (solid : ∀ c ∈ chars, isBlank c = false) :
    trim chars = chars := by
  have kept : ∀ chars : List Char, (∀ c ∈ chars, isBlank c = false) →
      chars.dropWhile isBlank = chars := by
    intro chars solid
    cases chars with
    | nil => rfl
    | cons c rest => exact List.dropWhile_cons_of_neg (by simp [solid c List.mem_cons_self])
  rw [trim, kept chars solid, kept _ fun c member => solid c (List.mem_reverse.1 member),
    List.reverse_reverse]

end DocStore.Text
