import DocStore.Calendar

/-!
# Epochs

An epoch counts milliseconds since the start of 1970 and serves as modification
time and version number.  Each write of a collection gets an epoch after the
previous one, whatever the clock reads (`Epoch.after`).
-/

namespace DocStore

/-- Milliseconds since the start of 1970. -/
structure Epoch where
  millis : Int
  deriving DecidableEq, Inhabited

namespace Epoch

/-- The epoch of a collection without writes. -/
def zero : Epoch := ⟨0⟩

instance : LE Epoch := ⟨fun left right => left.millis ≤ right.millis⟩
instance : LT Epoch := ⟨fun left right => left.millis < right.millis⟩
instance (left right : Epoch) : Decidable (left ≤ right) :=
  inferInstanceAs (Decidable (left.millis ≤ right.millis))
instance (left right : Epoch) : Decidable (left < right) :=
  inferInstanceAs (Decidable (left.millis < right.millis))

/-- The greater of two epochs. -/
def max (left right : Epoch) : Epoch := if left ≤ right then right else left

/-- The next epoch.  Epochs have 64 bits, so the greatest one is followed by the
least. -/
def next (epoch : Epoch) : Epoch := ⟨(epoch.millis + 1).bmod (1 <<< 64)⟩

/-- The candidate, or the epoch after the previous one where the candidate does not
lie past it. -/
def after (candidate previous : Epoch) : Epoch :=
  if candidate ≤ previous then previous.next else candidate

/-- Epochs below one carry no version. -/
def isZero (epoch : Epoch) : Bool := epoch.millis < 1

/-- The epoch as a decimal numeral. -/
def toText (epoch : Epoch) : String := String.ofList (Text.Numeral.showInt epoch.millis)

/-- The form of `ETag` headers: the numeral in double quotes. -/
def etag (epoch : Epoch) : String := "\"" ++ epoch.toText ++ "\""

/-- The instant that dates are written for: one that no date can be written for is
taken as the start of 1970. -/
def dated (epoch : Epoch) : Epoch := if CivilTime.isWritable epoch.millis then epoch else zero

/-- The form of `Last-Modified` headers. -/
def httpDate (epoch : Epoch) : String := (CivilTime.ofMillis epoch.dated.millis).httpDate

theorem next_millis {epoch : Epoch} (low : -0x8000000000000000 ≤ epoch.millis + 1)
    (high : epoch.millis + 1 < 0x8000000000000000) : epoch.next.millis = epoch.millis + 1 := by
  unfold next
  exact Int.bmod_eq_of_le (by omega) (by omega)

end Epoch
end DocStore
