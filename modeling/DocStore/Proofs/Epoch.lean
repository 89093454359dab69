import Mathlib.Algebra.Group.Int.Defs
import DocStore.Epoch

/-!
# The epochs of one collection

A collection gives out one epoch after the other, each of them after the latest one
(`Epoch.after`).  The properties below are about the latest epoch and the list of those
given out so far; each of them is kept when one more is given out, and so holds of every
run of a collection.  The clock may stand still, go back or be negative.
-/

namespace DocStore
namespace Epoch

theorem le_iff (left right : Epoch) : left ≤ right ↔ left.millis ≤ right.millis := Iff.rfl

theorem lt_iff (left right : Epoch) : left < right ↔ left.millis < right.millis := Iff.rfl

/-! ## The epoch after another one -/

/-- Short of the greatest epoch of 64 bits, the next epoch lies past the previous one. -/
theorem lt_after {previous : Epoch} (low : 0 ≤ previous.millis)
    (high : previous.millis < 2 ^ 63 - 1) (candidate : Epoch) :
    previous < candidate.after previous := by
  unfold after
  split
  · rw [lt_iff, next_millis (by omega) (by omega)]
    omega
  · rename_i later
    rw [le_iff] at later
    rw [lt_iff]
    omega

/-- The next epoch is at most the clock's or one past the previous epoch. -/
theorem after_le (candidate previous : Epoch) {bound : Int}
    (now : candidate.millis ≤ bound) (past : previous.millis + 1 ≤ bound)
    (low : -2 ^ 63 ≤ previous.millis + 1) : (candidate.after previous).millis ≤ bound := by
  unfold after
  split
  · by_cases high : previous.millis + 1 < 2 ^ 63
    · rw [next_millis low high]
      exact past
    · have below : (previous.next).millis < 2 ^ 63 := Int.bmod_lt (by decide)
      omega
  · exact now

/-- The next epoch has 64 bits if the previous one has. -/
theorem le_after (candidate : Epoch) {previous : Epoch} (low : -2 ^ 63 ≤ previous.millis) :
    -2 ^ 63 ≤ (candidate.after previous).millis := by
  unfold after
  split
  · exact Int.le_bmod (by decide)
  · rename_i later
    rw [le_iff] at later
    omega

/-! ## Epochs given out -/

/-- None of the epochs is the greatest one of 64 bits, after which they would start anew. -/
def Unwrapped (given : List Epoch) : Prop := ∀ epoch ∈ given, epoch.millis < 2 ^ 63 - 1

/-- The latest epoch is zero or one of those given out. -/
structure Tracks (latest : Epoch) (given : List Epoch) : Prop where
  nonneg : 0 ≤ latest.millis
  known : latest = zero ∨ latest ∈ given

theorem tracks_zero (given : List Epoch) : Tracks zero given := ⟨Int.le_refl 0, .inl rfl⟩

theorem Tracks.latest_lt {latest : Epoch} {given : List Epoch} (tracks : Tracks latest given)
    (unwrapped : Unwrapped given) : latest.millis < 2 ^ 63 - 1 := by
  rcases tracks.known with rfl | member
  · decide
  · exact unwrapped latest member

theorem Tracks.lt_after {latest : Epoch} {given : List Epoch} (tracks : Tracks latest given)
    (unwrapped : Unwrapped given) (now : Epoch) : latest < now.after latest :=
  Epoch.lt_after tracks.nonneg (tracks.latest_lt unwrapped) now

theorem Tracks.give {latest : Epoch} {given : List Epoch} (tracks : Tracks latest given)
    (unwrapped : Unwrapped given) (now : Epoch) :
    Tracks (now.after latest) (given ++ [now.after latest]) := by
  have low := tracks.nonneg
  have later := tracks.lt_after unwrapped now
  rw [lt_iff] at later
  exact ⟨by omega, .inr (by simp)⟩

/-- The epochs increase strictly up to the latest one, which is the last of them. -/
structure Increasing (latest : Epoch) (given : List Epoch) : Prop
    extends Tracks latest given where
  strict : given.Pairwise (· < ·)
  last : latest = given.getLast?.getD zero
  le_latest : ∀ epoch ∈ given, epoch ≤ latest

theorem increasing_zero : Increasing zero [] where
  toTracks := tracks_zero []
  strict := List.Pairwise.nil
  last := rfl
  le_latest _ member := by cases member

theorem Increasing.give {latest : Epoch} {given : List Epoch}
    (increasing : Increasing latest given) (unwrapped : Unwrapped given) (now : Epoch) :
    Increasing (now.after latest) (given ++ [now.after latest]) := by
  have later := increasing.lt_after unwrapped now
  have past : ∀ epoch ∈ given, epoch < now.after latest := by
    intro epoch member
    have bound := increasing.le_latest epoch member
    rw [le_iff] at bound
    rw [lt_iff] at later ⊢
    omega
  refine ⟨increasing.toTracks.give unwrapped now, ?_, by simp, fun epoch member => ?_⟩
  · refine List.pairwise_append.2 ⟨increasing.strict, List.pairwise_singleton _ _, ?_⟩
    intro epoch earlier new isNew
    rw [List.mem_singleton.1 isNew]
    exact past epoch earlier
  · rcases List.mem_append.1 member with earlier | isNew
    · exact Int.le_of_lt (past epoch earlier)
    · rw [List.mem_singleton.1 isNew]
      exact Int.le_refl _

/-- Epochs lie at most as far past a bound as there are of them. -/
structure Within (bound : Int) (latest : Epoch) (given : List Epoch) : Prop where
  low : -2 ^ 63 ≤ latest.millis
  latest_le : latest.millis ≤ bound + given.length
  given_le : ∀ epoch ∈ given, epoch.millis ≤ bound + given.length

theorem within_zero {bound : Int} (nonneg : 0 ≤ bound) {given : List Epoch}
    (given_le : ∀ epoch ∈ given, epoch.millis ≤ bound + given.length) :
    Within bound zero given where
  low := by decide
  latest_le := by
    simp only [zero]
    omega
  given_le := given_le

theorem Within.give {bound : Int} {latest : Epoch} {given : List Epoch}
    (within : Within bound latest given) {now : Epoch} (read : now.millis ≤ bound) :
    Within bound (now.after latest) (given ++ [now.after latest]) := by
  have low := within.low
  have high := within.latest_le
  have next : (now.after latest).millis ≤ bound + (given.length + 1) := by
    refine after_le now latest ?_ ?_ ?_ <;> omega
  refine ⟨le_after now low, by simpa using next, fun epoch member => ?_⟩
  rw [List.length_append, List.length_singleton]
  rcases List.mem_append.1 member with earlier | isNew
  · have bounded := within.given_le epoch earlier
    omega
  · rw [List.mem_singleton.1 isNew]
    exact next

end Epoch
end DocStore
