import Mathlib.Data.List.TakeDrop
import Mathlib.Data.List.TakeWhile
import DocStore.Proofs.Url.Segments

/-!
# Schemes read back

What is read as a scheme is one in lower case, and is read again in front of its colon.
-/

namespace DocStore
namespace Url
namespace Reader

/-- Whether a character may stand in a scheme. -/
def inScheme (c : Char) : Bool := isLetter c || isDigit c || c = '+' || c = '-' || c = '.'

/-- A scheme in lower case. -/
structure SettledScheme (scheme : String) : Prop where
  start : scheme.toList.head?.any isLetter = true
  within : ∀ c ∈ scheme.toList, inScheme c = true ∧ c.toLower = c

theorem lt_of_inScheme {c : Char} (inside : inScheme c = true) : c.toNat < 128 := by
  simp [inScheme, isLetter, isDigit, Char.le_def, UInt32.le_iff_toNat_le] at inside
  rcases inside with (((letter | digit) | rfl) | rfl) | rfl
  · omega
  · omega
  all_goals decide

theorem isSolid_of_inScheme {c : Char} (inside : inScheme c = true) : isSolid c = true := by
  have every : ∀ c : Char, c.toNat < 128 → inScheme c = true → isSolid c = true :=
    Text.forall_ascii (by decide)
  exact every c (lt_of_inScheme inside) inside

/-- The lower case of a scheme is a scheme in lower case. -/
theorem toLower_of_inScheme {c : Char} (inside : inScheme c = true) :
    inScheme c.toLower = true ∧ c.toLower.toLower = c.toLower ∧
      (isLetter c = true → isLetter c.toLower = true) := by
  have every : ∀ c : Char, c.toNat < 128 → inScheme c = true → inScheme c.toLower = true ∧
      c.toLower.toLower = c.toLower ∧ (isLetter c = true → isLetter c.toLower = true) :=
    Text.forall_ascii (by decide +kernel)
  exact every c (lt_of_inScheme inside) inside

theorem scheme?_eq (chars : List Char) :
    scheme? chars =
      match chars.head?, chars.span inScheme with
      | some first, (scheme, ':' :: rest) =>
        if isLetter first then some (String.ofList (scheme.map Char.toLower), rest) else none
      | _, _ => none := rfl

/-- A scheme is read back in front of its colon. -/
theorem scheme?_settled {scheme : String} (settled : SettledScheme scheme) (rest : List Char) :
    scheme? (scheme.toList ++ ':' :: rest) = some (scheme, rest) := by
  have stops : ∀ c, (':' :: rest).head? = some c → inScheme c = false := by
    rintro c head
    cases head
    rfl
  have inside := fun c member => (settled.within c member).1
  have span : (scheme.toList ++ ':' :: rest).span inScheme = (scheme.toList, ':' :: rest) := by
    rw [List.span_eq_takeWhile_dropWhile, Text.takeWhile_append_stop inside stops,
      Text.dropWhile_append_stop inside stops]
  have lower : scheme.toList.map Char.toLower = scheme.toList := by
    rw [List.map_congr_left fun c member => (settled.within c member).2, List.map_id']
  obtain ⟨first, head, letter⟩ := (Option.any_eq_true _ _).1 settled.start
  have start : (scheme.toList ++ ':' :: rest).head? = some first := by
    rw [List.head?_append, head, Option.some_or]
  rw [scheme?_eq, start, span]
  simp [letter, lower]

/-- Whatever is read as a scheme is one, and stands in front of a colon. -/
theorem exists_of_scheme? {chars rest : List Char} {scheme : String}
    (read : scheme? chars = some (scheme, rest)) :
    SettledScheme scheme ∧ ∃ start, chars = start ++ ':' :: rest := by
  rw [scheme?_eq] at read
  split at read
  · rename_i first written behind head span
    split at read
    · rename_i letter
      cases read
      rw [List.span_eq_takeWhile_dropWhile] at span
      obtain ⟨taken, dropped⟩ := Prod.mk.inj span
      have inside : ∀ c ∈ written, inScheme c = true := fun c member =>
        List.mem_takeWhile_imp (taken ▸ member)
      refine ⟨⟨?_, ?_⟩, written, ?_⟩
      · obtain ⟨others, rfl⟩ := List.head?_eq_some_iff.1 head
        have within : inScheme first = true := by simp [inScheme, letter]
        rw [← taken, List.takeWhile_cons_of_pos within]
        simpa using (toLower_of_inScheme within).2.2 letter
      · rw [String.toList_ofList]
        intro c member
        obtain ⟨original, among, rfl⟩ := List.mem_map.1 member
        have lower := toLower_of_inScheme (inside original among)
        exact ⟨lower.1, lower.2.1⟩
      · rw [← taken, ← dropped, List.takeWhile_append_dropWhile]
    · cases read
  · cases read

end Reader
end Url
end DocStore
