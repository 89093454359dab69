import Mathlib.Algebra.Group.Nat.Defs
import Mathlib.Data.List.Induction
import Mathlib.Data.List.TakeWhile
import DocStore.Proofs.Text.Percent
import DocStore.Proofs.Text.Split
import DocStore.Url.Host

/-!
# Hosts read back

Outside the web a host is a name or an IPv6 address, and what was read as one is read again as it
is written (`Host.ofName_chars`).  For an address this takes that its longest run of zeros, which
becomes a gap, is filled up with as many zeros again (`Host.ipv6?_ipv6Chars`).
-/

namespace DocStore
namespace Host

/-! ## Hexadecimal numbers -/

/-- The digits of pieces. -/
def pieceDigits : List Char :=
  ['0', '1', '2', '3', '4', '5', '6', '7', '8', '9', 'a', 'b', 'c', 'd', 'e', 'f']

theorem hexDigit?_digitChar {d : Nat} (small : d < 16) :
    Text.hexDigit? d.digitChar = some d ∧ d.digitChar ∈ pieceDigits := by
  have every : ∀ d : Fin 16, Text.hexDigit? (Nat.digitChar d) = some d.val ∧
      Nat.digitChar d ∈ pieceDigits := by decide
  exact every ⟨d, small⟩

theorem numberOf_concat (base : Nat) (digits : List Char) (c : Char) :
    numberOf base (digits ++ [c]) = (do
      let value ← numberOf base digits
      let d ← Text.hexDigit? c
      if d < base then some (value * base + d) else none) := by
  simp [numberOf]

/-- Digits make a number that they have room for. -/
theorem numberOf_lt {base : Nat} {digits : List Char} {n : Nat}
    (read : numberOf base digits = some n) : n < base ^ digits.length := by
  induction digits using List.reverseRecOn generalizing n with
  | nil =>
    cases read
    exact Nat.one_pos
  | append_singleton digits c ih =>
    simp only [numberOf_concat, Option.bind_eq_bind, Option.bind_eq_some_iff] at read
    obtain ⟨value, before, d, _, read⟩ := read
    split at read
    · rename_i small
      cases read
      rw [List.length_append, List.length_singleton, Nat.pow_succ]
      calc value * base + d < value * base + base := by omega
        _ = (value + 1) * base := by rw [Nat.add_mul, Nat.one_mul]
        _ ≤ base ^ digits.length * base := Nat.mul_le_mul_right base (ih before)
    · cases read

theorem numberOf_toDigits (n : Nat) : numberOf 16 (Nat.toDigits 16 n) = some n := by
  induction n using Nat.base_induction 16 (by decide) with
  | single d small =>
    rw [Nat.toDigits_of_lt_base small]
    simp [numberOf, (hexDigit?_digitChar small).1, small]
  | digit n d small some ih =>
    rw [← Nat.toDigits_append_toDigits (by decide) some small, Nat.toDigits_of_lt_base small,
      numberOf_concat, ih]
    simp [(hexDigit?_digitChar small).1, small]
    omega

/-- Digits of a base up to sixteen are hexadecimal. -/
theorem mem_pieceDigits {base n : Nat} {c : Char} (more : 1 < base) (few : base ≤ 16)
    (member : c ∈ Nat.toDigits base n) : c ∈ pieceDigits := by
  induction n using Nat.base_induction base more with
  | single d small =>
    rw [Nat.toDigits_of_lt_base small, List.mem_singleton] at member
    exact member ▸ (hexDigit?_digitChar (Nat.lt_of_lt_of_le small few)).2
  | digit n d small some ih =>
    rw [← Nat.toDigits_append_toDigits more some small, Nat.toDigits_of_lt_base small,
      List.mem_append, List.mem_singleton] at member
    rcases member with before | rfl
    · exact ih before
    · exact (hexDigit?_digitChar (Nat.lt_of_lt_of_le small few)).2

/-- No piece has a colon or a dot. -/
theorem not_mem_toDigits (n : Nat) {c : Char} (other : c ∉ pieceDigits) :
    c ∉ Nat.toDigits 16 n := fun member =>
  other (mem_pieceDigits (by decide) (Nat.le_refl 16) member)

/-! ## Pieces -/

/-- The pieces of an address have 16 bits. -/
def Fits (pieces : List Nat) : Prop := ∀ piece ∈ pieces, piece < 0x10000

variable {pieces : List Nat}

theorem ipv6Piece?_toDigits {n : Nat} (small : n < 0x10000) :
    ipv6Piece? (Nat.toDigits 16 n) = some n := by
  have short : (Nat.toDigits 16 n).length ≤ 4 :=
    (Nat.length_toDigits_le_iff (by decide) (by decide)).2 small
  have some : (Nat.toDigits 16 n).isEmpty = false := by simp
  rw [ipv6Piece?, if_neg, numberOf_toDigits]
  simp only [some, Bool.false_eq_true, false_or]
  omega

theorem mapM_ipv6Piece? (fits : Fits pieces) :
    (pieces.map (Nat.toDigits 16)).mapM ipv6Piece? = some pieces := by
  induction pieces with
  | nil => rfl
  | cons piece rest ih =>
    have first := ipv6Piece?_toDigits (fits piece List.mem_cons_self)
    have others := ih fun other member => fits other (List.mem_cons_of_mem _ member)
    simp [first, others]

theorem splitOn_pieceChars (some : pieces ≠ []) :
    Text.splitOn ':' (pieceChars pieces) = pieces.map (Nat.toDigits 16) := by
  have free : ∀ piece ∈ pieces.map (Nat.toDigits 16), ':' ∉ piece := by
    simp only [List.mem_map, forall_exists_index, and_imp, forall_apply_eq_imp_iff₂]
    exact fun piece _ => not_mem_toDigits piece (by decide)
  exact Text.splitOn_join (by simpa using some) free

/-- Pieces start with a digit. -/
theorem exists_pieceChars (some : pieces ≠ []) :
    ∃ c rest, pieceChars pieces = c :: rest ∧ c ∈ pieceDigits := by
  obtain ⟨piece, others, rfl⟩ := List.exists_cons_of_ne_nil some
  have nonempty : Nat.toDigits 16 piece ≠ [] := Nat.toDigits_ne_nil
  obtain ⟨c, digits, written⟩ := List.exists_cons_of_ne_nil nonempty
  have digit : c ∈ pieceDigits :=
    mem_pieceDigits (by decide) (Nat.le_refl 16) (written ▸ List.mem_cons_self)
  cases others with
  | nil => exact ⟨c, digits, written, digit⟩
  | cons next others =>
    refine ⟨c, digits ++ ':' :: pieceChars (next :: others), ?_, digit⟩
    rw [← List.cons_append, ← written]
    rfl

/-- Pieces are read back as they are, octets or none. -/
theorem pieces?_pieceChars (octetsAllowed : Bool) (fits : Fits pieces) :
    pieces? octetsAllowed (pieceChars pieces) = some pieces := by
  by_cases none : pieces = []
  · subst none
    rfl
  · obtain ⟨c, rest, start, _⟩ := exists_pieceChars none
    have written : pieceChars pieces ≠ [] := start ▸ List.cons_ne_nil c rest
    have split := splitOn_pieceChars none
    have plain : ((pieces.map (Nat.toDigits 16)).getLastD []).contains '.' = false := by
      rw [List.getLastD_eq_getLast?, List.getLast?_map]
      cases pieces.getLast? with
      | none => rfl
      | some last => simpa using not_mem_toDigits last (by decide)
    simp only [pieces?, List.isEmpty_iff, if_neg written, split, plain, Bool.false_eq_true,
      and_false, if_false, mapM_ipv6Piece? fits]

/-! ## Gaps -/

/-- What has no colon is passed. -/
theorem splitAtGap_append {piece : List Char} (free : ':' ∉ piece) (rest : List Char) :
    splitAtGap (piece ++ rest) =
      (splitAtGap rest).map fun found => (piece ++ found.1, found.2) := by
  induction piece with
  | nil => simp
  | cons c others ih =>
    obtain ⟨other, free⟩ : ':' ≠ c ∧ ':' ∉ others := by simpa using free
    rw [List.cons_append, splitAtGap, ih free]
    · simp [Function.comp_def]
    · rintro _ rfl
      exact absurd rfl other

/-- A single colon is passed. -/
theorem splitAtGap_colon {c : Char} (other : c ≠ ':') (rest : List Char) :
    splitAtGap (':' :: c :: rest) =
      (splitAtGap (c :: rest)).map fun found => (':' :: found.1, found.2) := by
  rw [splitAtGap]
  rintro _ _ same
  exact other (List.cons.inj same).1

/-- There is no gap within pieces. -/
theorem splitAtGap_pieceChars (pieces : List Nat) (rest : List Char) :
    splitAtGap (pieceChars pieces ++ rest) =
      (splitAtGap rest).map fun found => (pieceChars pieces ++ found.1, found.2) := by
  induction pieces with
  | nil => simp [pieceChars, Text.join]
  | cons piece others ih =>
    have free : ':' ∉ Nat.toDigits 16 piece := not_mem_toDigits piece (by decide)
    cases others with
    | nil => exact splitAtGap_append free rest
    | cons next others =>
      have behind : pieceChars (piece :: next :: others) =
          Nat.toDigits 16 piece ++ ':' :: pieceChars (next :: others) := rfl
      obtain ⟨c, digits, start, digit⟩ := exists_pieceChars (List.cons_ne_nil next others)
      have other : c ≠ ':' := by
        rintro rfl
        exact absurd digit (by decide)
      rw [behind, List.append_assoc, splitAtGap_append free, List.cons_append, start,
        List.cons_append, splitAtGap_colon other, ← List.cons_append, ← start, ih]
      simp [Function.comp_def]

/-- The run of zeros that becomes a gap is one. -/
theorem longestZeros_le (pieces : List Nat) :
    (longestZeros pieces).2 ≤
      ((pieces.drop (longestZeros pieces).1).takeWhile (· = 0)).length := by
  have steps : ∀ (starts : List Nat) (best : Nat × Nat),
      best.2 ≤ ((pieces.drop best.1).takeWhile (· = 0)).length →
        let last := starts.foldl (fun best start =>
          let run := ((pieces.drop start).takeWhile (· = 0)).length
          if run > best.2 then (start, run) else best) best
        last.2 ≤ ((pieces.drop last.1).takeWhile (· = 0)).length := by
    intro starts
    induction starts with
    | nil => exact fun _ bound => bound
    | cons start rest ih =>
      intro best bound
      refine ih _ ?_
      simp only []
      split
      · exact Nat.le_refl _
      · exact bound
  exact steps (List.range pieces.length) (0, 0) (Nat.zero_le _)

/-- An address is what stands around its gap, and the gap. -/
theorem eq_around_zeros (pieces : List Nat) :
    pieces = pieces.take (longestZeros pieces).1 ++ List.replicate (longestZeros pieces).2 0 ++
      pieces.drop ((longestZeros pieces).1 + (longestZeros pieces).2) := by
  have bound := longestZeros_le pieces
  generalize (longestZeros pieces).1 = start, (longestZeros pieces).2 = run at bound ⊢
  have zeros : (pieces.drop start).take run = List.replicate run 0 := by
    have start_run : (pieces.drop start).takeWhile (· = 0) <+: pieces.drop start :=
      List.takeWhile_prefix _
    have within : (pieces.drop start).take run =
        ((pieces.drop start).takeWhile (· = 0)).take run := by
      rw [List.prefix_iff_eq_take.1 start_run, List.take_take, Nat.min_eq_left bound]
    rw [within, List.eq_replicate_iff]
    refine ⟨List.length_take_of_le bound, fun piece member => ?_⟩
    simpa using List.mem_takeWhile_imp (List.mem_of_mem_take member)
  rw [← zeros, List.append_assoc, ← List.drop_drop, List.take_append_drop, List.take_append_drop]

/-! ## Addresses -/

theorem ipv6?_pieceChars (eight : pieces.length = 8) (fits : Fits pieces) :
    ipv6? (pieceChars pieces) = some pieces := by
  have none : pieces ≠ [] := by
    rintro rfl
    cases eight
  obtain ⟨c, rest, start, _⟩ := exists_pieceChars none
  have written : (pieceChars pieces).isEmpty = false := by rw [start]; rfl
  have whole : splitAtGap (pieceChars pieces) = Option.none := by
    simpa [splitAtGap] using splitAtGap_pieceChars pieces []
  simp [ipv6?, whole, written, pieces?_pieceChars true fits, eight]

/-- Zeros make up for a gap. -/
theorem ipv6?_gap {left right : List Nat} (few : left.length + right.length < 8)
    (fitsLeft : Fits left) (fitsRight : Fits right) :
    ipv6? (pieceChars left ++ [':', ':'] ++ pieceChars right) =
      some (left ++ List.replicate (8 - (left.length + right.length)) 0 ++ right) := by
  have gap : splitAtGap (pieceChars left ++ [':', ':'] ++ pieceChars right) =
      some (pieceChars left, pieceChars right) := by
    rw [List.append_assoc, splitAtGap_pieceChars]
    simp [splitAtGap]
  rw [ipv6?, gap]
  simp [pieces?_pieceChars false fitsLeft, pieces?_pieceChars true fitsRight, few]

/-- An address is read back as it is written. -/
theorem ipv6?_ipv6Chars (eight : pieces.length = 8) (fits : Fits pieces) :
    ipv6? (ipv6Chars pieces) = some pieces := by
  have around := eq_around_zeros pieces
  have total := congrArg List.length around
  simp only [List.length_append, List.length_replicate, eight] at total
  unfold ipv6Chars
  simp only []
  split
  · exact ipv6?_pieceChars eight fits
  · rename_i long
    have few : (pieces.take (longestZeros pieces).1).length +
        (pieces.drop ((longestZeros pieces).1 + (longestZeros pieces).2)).length < 8 := by omega
    have rest : 8 - ((pieces.take (longestZeros pieces).1).length +
        (pieces.drop ((longestZeros pieces).1 + (longestZeros pieces).2)).length) =
          (longestZeros pieces).2 := by omega
    rw [ipv6?_gap few (fun piece member => fits piece (List.mem_of_mem_take member))
      (fun piece member => fits piece (List.mem_of_mem_drop member)), rest, ← around]

/-! ## Addresses that were read -/

theorem exists_of_mem_mapM {α β : Type} {read : α → Option β} {items : List α} {values : List β}
    (mapped : items.mapM read = some values) {value : β} (member : value ∈ values) :
    ∃ item ∈ items, read item = some value := by
  induction items generalizing values with
  | nil =>
    cases mapped
    exact absurd member List.not_mem_nil
  | cons item rest ih =>
    simp only [List.mapM_cons, Option.bind_eq_bind, Option.bind_eq_some_iff] at mapped
    obtain ⟨first, reads, others, mapped, same⟩ := mapped
    cases same
    rcases List.mem_cons.1 member with rfl | later
    · exact ⟨item, List.mem_cons_self, reads⟩
    · obtain ⟨other, inside, reads⟩ := ih mapped later
      exact ⟨other, List.mem_cons_of_mem _ inside, reads⟩

theorem lt_of_ipv6Piece? {chars : List Char} {piece : Nat} (read : ipv6Piece? chars = some piece) :
    piece < 0x10000 := by
  unfold ipv6Piece? at read
  split at read
  · cases read
  · rename_i bound
    have short : chars.length ≤ 4 := by omega
    exact Nat.lt_of_lt_of_le (numberOf_lt read) (Nat.pow_le_pow_right (by decide) short)

theorem fits_of_mapM {parts : List (List Char)} (read : parts.mapM ipv6Piece? = some pieces) :
    Fits pieces := by
  intro piece member
  obtain ⟨part, _, found⟩ := exists_of_mem_mapM read member
  exact lt_of_ipv6Piece? found

theorem le_of_octet? {chars : List Char} {value : Nat} (read : octet? chars = some value) :
    value ≤ 255 := by
  unfold octet? at read
  split at read
  · cases read
  · cases read
  · simp only [Option.bind_eq_bind, Option.bind_eq_some_iff] at read
    obtain ⟨found, _, read⟩ := read
    split at read
    · cases read
      assumption
    · cases read

theorem fits_of_ipv4Pieces? {chars : List Char} (read : ipv4Pieces? chars = some pieces) :
    Fits pieces := by
  simp only [ipv4Pieces?, Option.bind_eq_bind, Option.bind_eq_some_iff] at read
  obtain ⟨octets, mapped, read⟩ := read
  split at read
  · rename_i a b c d
    cases read
    have small : ∀ octet ∈ [a, b, c, d], octet ≤ 255 := fun octet member =>
      (exists_of_mem_mapM mapped member).elim fun _ found => le_of_octet? found.2
    intro piece member
    simp only [List.mem_cons, List.not_mem_nil, or_false, forall_eq_or_imp, forall_eq]
      at small member
    omega
  · cases read

theorem fits_of_pieces? {octetsAllowed : Bool} {chars : List Char}
    (read : pieces? octetsAllowed chars = some pieces) : Fits pieces := by
  unfold pieces? at read
  simp only [] at read
  split at read
  · cases read
    exact fun piece member => absurd member List.not_mem_nil
  · split at read
    · simp only [Option.bind_eq_bind, Option.bind_eq_some_iff, Option.some.injEq] at read
      obtain ⟨leading, first, last, second, rfl⟩ := read
      intro piece member
      rcases List.mem_append.1 member with inside | inside
      · exact fits_of_mapM first piece inside
      · exact fits_of_ipv4Pieces? second piece inside
    · exact fits_of_mapM read

/-- An address has eight pieces of 16 bits. -/
theorem fits_of_ipv6? {chars : List Char} (read : ipv6? chars = some pieces) :
    pieces.length = 8 ∧ Fits pieces := by
  unfold ipv6? at read
  split at read
  · split at read
    · cases read
    · simp only [Option.bind_eq_bind, Option.bind_eq_some_iff] at read
      obtain ⟨found, parts, read⟩ := read
      split at read
      · rename_i eight
        cases read
        exact ⟨eight, fits_of_pieces? parts⟩
      · cases read
  · simp only [Option.bind_eq_bind, Option.bind_eq_some_iff] at read
    obtain ⟨left, first, right, second, read⟩ := read
    split at read
    · rename_i few
      cases read
      refine ⟨by simp; omega, fun piece member => ?_⟩
      rcases List.mem_append.1 member with inside | inside
      · rcases List.mem_append.1 inside with inside | zero
        · exact fits_of_pieces? first piece inside
        · rw [List.eq_of_mem_replicate zero]
          decide
      · exact fits_of_pieces? second piece inside
    · cases read

/-! ## Hosts -/

/-- A host as a scheme outside the web has it. -/
def Settled : Host → Prop
  | named text => ∀ c ∈ text.toList, isForbidden c = false ∧ isControlOrWide c = false
  | ipv4 _ => False
  | ipv6 pieces => pieces.length = 8 ∧ Fits pieces

theorem bracketed_concat {inner : List Char} (read : ipv6? inner = some pieces) :
    bracketed (inner ++ [']']) = .ok (.ipv6 pieces) := by
  simp [bracketed, read]

/-- A host is read back as it is written. -/
theorem ofName_chars {host : Host} (settled : host.Settled) : ofName host.chars = .ok host := by
  cases host with
  | named text =>
    have free : text.toList.any isForbidden = false := by
      simpa using fun c member => (settled c member).1
    have plain := Text.percentEncode_of_free fun c member => (settled c member).2
    have noBracket : ∀ inner, text.toList ≠ '[' :: inner := by
      intro inner start
      have inside : '[' ∈ text.toList := start ▸ List.mem_cons_self
      exact absurd (settled '[' inside).1 (by decide)
    rw [chars, ofName]
    · simp [free, plain]
    · exact noBracket
  | ipv4 address => exact settled.elim
  | ipv6 pieces =>
    rw [chars, List.cons_append, ofName, bracketed_concat (ipv6?_ipv6Chars settled.1 settled.2)]

/-- Whatever is read as a name is settled. -/
theorem settled_of_ofName {chars : List Char} {host : Host} (read : ofName chars = .ok host) :
    host.Settled := by
  unfold ofName at read
  split at read
  · unfold bracketed at read
    split at read
    · split at read
      · cases read
        exact fits_of_ipv6? ‹_›
      · cases read
    · cases read
  · split at read
    · cases read
    · rename_i free
      cases read
      rw [Settled, String.toList_ofList]
      have escapes : ∀ c ∈ Text.escapeChars, isForbidden c = false ∧ isControlOrWide c = false :=
        Text.forall_mem_of_all (by decide)
      refine Text.forall_mem_percentEncode escapes fun c member plain => ⟨?_, plain⟩
      simpa using fun forbidden => free (List.any_eq_true.2 ⟨c, member, forbidden⟩)

end Host
end DocStore
