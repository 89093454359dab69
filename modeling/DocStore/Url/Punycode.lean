/-!
# Domain labels in ASCII

A label with characters beyond ASCII is written as `xn--` followed by its ASCII characters
and a coding of which others stand where.
-/

namespace DocStore
namespace Punycode

/-- The digit of a number below 36: letters, then decimal digits. -/
def digit (n : Nat) : Char :=
  if n < 26 then Char.ofNat ('a'.toNat + n) else Char.ofNat ('0'.toNat + (n - 26))

/-- Divides a difference by 35 until it is small, counting the steps by 36. -/
def settle (delta steps : Nat) : Nat :=
  if delta > 455 then settle (delta / 35) (steps + 36)
  else steps + 36 * delta / (delta + 38)
termination_by delta

/-- The bias after a difference was written. -/
def adapt (delta count : Nat) (first : Bool) : Nat :=
  let scaled := if first then delta / 700 else delta / 2
  let spread := scaled + scaled / count
  settle spread 0

/-- The number from which on a digit is followed by another one. -/
def threshold (bias k : Nat) : Nat :=
  if k ≤ bias then 1 else if k ≥ bias + 26 then 26 else k - bias

theorem one_le_threshold (bias k : Nat) : 1 ≤ threshold bias k := by
  grind [threshold]

/-- Writes a difference as digits of mixed base, the last one below its threshold. -/
def digits (bias k delta : Nat) : List Char :=
  let least := threshold bias k
  if delta < least then [digit delta]
  else
    digit (least + (delta - least) % (36 - least)) ::
      digits bias (k + 36) ((delta - least) / (36 - least))
termination_by delta
decreasing_by
  have positive := one_le_threshold bias k
  exact Nat.lt_of_le_of_lt (Nat.div_le_self _ _) (by omega)

/-- What the coding of a label carries from character to character. -/
structure State where
  /-- The code point that the next difference starts from. -/
  code : Nat
  /-- The difference so far. -/
  delta : Nat
  /-- The bias of the digits. -/
  bias : Nat
  /-- How many characters are written. -/
  written : Nat
  /-- Whether no character beyond ASCII is written yet. -/
  first : Bool
  /-- The digits so far, last one first. -/
  output : List Char

/-- One pass over the label for the code point that comes next. -/
def pass (state : State) (code : Nat) (label : List Char) : State :=
  let start :=
    { state with delta := state.delta + (code - state.code) * (state.written + 1), code := code }
  let swept := label.foldl
    (fun (s : State) c =>
      if c.toNat < code then { s with delta := s.delta + 1 }
      else if c.toNat = code then
        { s with
          output := (digits s.bias 36 s.delta).reverse ++ s.output
          bias := adapt s.delta (s.written + 1) s.first
          delta := 0
          written := s.written + 1
          first := false }
      else s)
    start
  { swept with delta := swept.delta + 1, code := code + 1 }

/-- The code points beyond ASCII of a label, increasing and without repetition. -/
def wideCodes (label : List Char) : List Nat :=
  ((label.filter (·.toNat ≥ 128)).map Char.toNat).mergeSort.eraseDups

/-- The code of a label: its ASCII characters, and behind a hyphen where the others
stand. -/
def encode (label : List Char) : List Char :=
  let basic := label.filter (·.toNat < 128)
  let start : State := ⟨128, 0, 72, basic.length, true, []⟩
  let final := (wideCodes label).foldl (fun state code => pass state code label) start
  basic ++ (if basic.isEmpty then [] else ['-']) ++ final.output.reverse

/-! ## Reading -/

/-- The number of a digit. -/
def digitValue? (c : Char) : Option Nat :=
  if 'a' ≤ c ∧ c ≤ 'z' then some (c.toNat - 'a'.toNat)
  else if '0' ≤ c ∧ c ≤ '9' then some (c.toNat - '0'.toNat + 26)
  else none

/-- What numbers of a code are below. -/
def numberLimit : Nat := 1 <<< 32

/-- Reads a difference from its digits of mixed base; the next digit counts `weight`. -/
def difference? (bias : Nat) : Nat → Nat → List Char → Option (Nat × List Char)
  | _, _, [] => none
  | k, weight, c :: rest => do
    let value ← digitValue? c
    let least := threshold bias k
    if value < least then some (value * weight, rest)
    else if weight * (36 - least) < numberLimit then do
      let (more, rest) ← difference? bias (k + 36) (weight * (36 - least)) rest
      some (value * weight + more, rest)
    else none

theorem length_of_difference {bias k weight delta : Nat} {coded rest : List Char}
    (found : difference? bias k weight coded = some (delta, rest)) :
    rest.length < coded.length := by
  induction coded generalizing k weight delta rest with
  | nil => simp [difference?] at found
  | cons c tail hypothesis =>
    simp only [difference?, Option.bind_eq_bind, Option.bind_eq_some_iff] at found
    obtain ⟨value, _, found⟩ := found
    split at found
    · simp only [Option.some.injEq, Prod.mk.injEq] at found
      simp [← found.2]
    · split at found
      · simp only [Option.bind_eq_some_iff, Option.some.injEq, Prod.mk.injEq] at found
        obtain ⟨more, later, _, rfl⟩ := found
        have := hypothesis later
        simp only [List.length_cons]
        omega
      · simp at found

/-- Puts characters into a label, each a difference after the code point and the place of
the one before. -/
def insertions? (code place bias : Nat) (first : Bool) (label : List Char) :
    List Char → Option (List Char)
  | [] => some label
  | c :: tail =>
    match found : difference? bias 36 1 (c :: tail) with
    | none => none
    | some (delta, rest) =>
      have : rest.length ≤ tail.length := Nat.le_of_lt_succ (length_of_difference found)
      let count := label.length + 1
      let code := code + (place + delta) / count
      let place := (place + delta) % count
      if code.isValidChar ∧ delta < numberLimit then
        insertions? code (place + 1) (adapt delta count first) false
          (label.take place ++ Char.ofNat code :: label.drop place) rest
      else none
termination_by coded => coded.length

/-- The label that a code stands for. -/
def decode? (coded : List Char) : Option (List Char) :=
  let (tail, head) := coded.reverse.span (· ≠ '-')
  match head with
  | '-' :: basic@(_ :: _) => insertions? 128 0 72 true basic.reverse tail.reverse
  | [] => insertions? 128 0 72 true [] coded
  | _ => none

example : encode "bücher".toList = "bcher-kva".toList := by decide +kernel
example : encode "☃".toList = "n3h".toList := by decide +kernel
example : decode? "bcher-kva".toList = some "bücher".toList := by decide +kernel

end Punycode
end DocStore
