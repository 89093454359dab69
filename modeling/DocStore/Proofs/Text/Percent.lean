import DocStore.Text.Percent

/-!
# What percent encoding writes

Characters outside the set stand for themselves, and every other one is written with a percent
sign and hexadecimal digits.  Where the set spares these, nothing of it is left in an encoded text
(`free_percentEncode`), and a text in which nothing of it is left stays as it is
(`percentEncode_of_free`).
-/

namespace DocStore.Text

/-- What is decided for each of a few characters; a search through all characters is not. -/
theorem forall_mem_of_all {Good : Char → Prop} [DecidablePred Good] {few : List Char}
    (all : (few.all fun c => decide (Good c)) = true) : ∀ c ∈ few, Good c := by
  simpa using all

/-- What is decided for the characters of ASCII. -/
theorem forall_ascii {Good : Char → Prop} (every : ∀ n : Fin 128, Good (Char.ofNat n)) :
    ∀ c : Char, c.toNat < 128 → Good c := by
  intro c small
  simpa using every ⟨c.toNat, small⟩

/-- The characters that spell bytes. -/
def escapeChars : List Char :=
  ['%', '0', '1', '2', '3', '4', '5', '6', '7', '8', '9', 'A', 'B', 'C', 'D', 'E', 'F']

theorem mem_escapeChars {byte : UInt8} {c : Char} (member : c ∈ percentByte byte) :
    c ∈ escapeChars := by
  have digits : ∀ n : Fin 16, upperHexDigit n ∈ escapeChars := by decide
  have bound : byte.toNat < 256 := byte.toNat_lt
  simp only [percentByte, List.mem_cons, List.not_mem_nil, or_false] at member
  rcases member with rfl | rfl | rfl
  · decide
  · exact digits ⟨byte.toNat / 16, by omega⟩
  · exact digits ⟨byte.toNat % 16, by omega⟩

variable {inSet : Char → Bool} {chars : List Char}

/-- What holds of the characters that spell bytes, and of those that stand for themselves, holds
of the encoded text. -/
theorem forall_mem_percentEncode {Good : Char → Prop} (escapes : ∀ c ∈ escapeChars, Good c)
    (plain : ∀ c ∈ chars, inSet c = false → Good c) :
    ∀ c ∈ percentEncode inSet chars, Good c := by
  intro c member
  obtain ⟨original, inside, written⟩ := List.mem_flatMap.1 member
  split at written
  · obtain ⟨byte, _, spelled⟩ := List.mem_flatMap.1 written
    exact escapes c (mem_escapeChars spelled)
  · rename_i outside
    rw [List.mem_singleton.1 written]
    exact plain original inside (by simpa using outside)

/-- Nothing of the set is left in the encoded text if the set spares what spells bytes. -/
theorem free_percentEncode (spares : ∀ c ∈ escapeChars, inSet c = false) (chars : List Char) :
    ∀ c ∈ percentEncode inSet chars, inSet c = false :=
  forall_mem_percentEncode spares fun _ _ outside => outside

theorem percentEncode_of_free (free : ∀ c ∈ chars, inSet c = false) :
    percentEncode inSet chars = chars := by
  induction chars with
  | nil => rfl
  | cons c rest ih =>
    have outside := free c List.mem_cons_self
    have others := ih fun other member => free other (List.mem_cons_of_mem _ member)
    rw [percentEncode, List.flatMap_cons, outside, if_neg Bool.false_ne_true]
    exact congrArg (c :: ·) others

/-- The first byte of a character is the character itself, or none of ASCII. -/
theorem exists_charBytes (c : Char) : ∃ first rest, charBytes c = first :: rest ∧
    (first.toNat = c.toNat ∨ 0x80 ≤ first.toNat) := by
  have value : c.val.toNat = c.toNat := rfl
  have bound : c.toNat < 0x110000 := by
    have valid := c.valid
    rw [UInt32.isValidChar, Nat.isValidChar, value] at valid
    omega
  rw [charBytes, String.utf8EncodeChar, value]
  split
  · exact ⟨_, _, rfl, .inl (by simp; omega)⟩
  · split
    · exact ⟨_, _, rfl, .inr (by simp; omega)⟩
    · split
      · exact ⟨_, _, rfl, .inr (by simp; omega)⟩
      · exact ⟨_, _, rfl, .inr (by simp; omega)⟩

/-! ## The ends of what is written -/

theorem percentEncode_append (inSet : Char → Bool) (left right : List Char) :
    percentEncode inSet (left ++ right) = percentEncode inSet left ++ percentEncode inSet right :=
  List.flatMap_append

theorem percentEncode_singleton_ne_nil (inSet : Char → Bool) (c : Char) :
    percentEncode inSet [c] ≠ [] := by
  obtain ⟨byte, bytes, spelled, _⟩ := exists_charBytes c
  cases inside : inSet c <;> simp [percentEncode, inside, spelled, percentByte]

/-- A character that spells no byte stands for itself. -/
theorem eq_of_mem_percentEncode {c d : Char} (member : d ∈ percentEncode inSet [c])
    (other : d ∉ escapeChars) : d = c := by
  have written : ∀ e ∈ percentEncode inSet [c], e ∈ escapeChars ∨ e = c :=
    forall_mem_percentEncode (fun e spelled => .inl spelled) fun e inside _ =>
      .inr (List.mem_singleton.1 inside)
  exact (written d member).resolve_left other

theorem head?_of_percentEncode {d : Char} (other : d ∉ escapeChars)
    (head : (percentEncode inSet chars).head? = some d) : chars.head? = some d := by
  cases chars with
  | nil => cases head
  | cons c rest =>
    have first := percentEncode_append inSet [c] rest
    obtain ⟨e, others, starts⟩ :=
      List.exists_cons_of_ne_nil (percentEncode_singleton_ne_nil inSet c)
    rw [List.singleton_append, starts] at first
    rw [first] at head
    cases head
    rw [List.head?_cons, eq_of_mem_percentEncode (starts ▸ List.mem_cons_self) other]

theorem getLast?_of_percentEncode {d : Char} (other : d ∉ escapeChars)
    (last : (percentEncode inSet chars).getLast? = some d) : chars.getLast? = some d := by
  rcases List.eq_nil_or_concat chars with rfl | ⟨front, c, rfl⟩
  · cases last
  · rw [List.concat_eq_append, percentEncode_append, List.getLast?_append] at last
    rcases Option.or_eq_some_iff.1 last with ended | ⟨nothing, _⟩
    · have same := eq_of_mem_percentEncode (List.mem_of_getLast? ended) other
      simp [same]
    · exact absurd (List.getLast?_eq_none_iff.1 nothing) (percentEncode_singleton_ne_nil inSet c)

end DocStore.Text
