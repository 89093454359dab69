import DocStore.Proofs.Memory.Sound

/-!
# Latest epochs

The latest epoch of a collection, if the collection was ever written.  Storing and burying give
out the next epoch of one collection and make it the latest one; giving it out can be looked at
on its own (`Holdings.advance`).

A bound on the latest epochs grows by one with every epoch that is given out, as long as the
clock stays below it (`Holdings.UpTo`).
-/

namespace DocStore
namespace Holdings

/-- The latest epoch of a collection, if it was ever written. -/
def epoch? (holdings : Holdings) (name : String) : Option Epoch :=
  (Dict.find? holdings.live name).map (·.latest)

/-- Gives out the next epoch of a collection. -/
def advance (holdings : Holdings) (name : String) (now : Epoch) : Holdings :=
  { holdings with
    live := holdings.live.insert name
      { holdings.live.collection name with latest := holdings.nextEpoch name now } }

variable (holdings : Holdings) (name : String) (now : Epoch)

theorem latest_eq : (holdings.live.collection name).latest =
    (holdings.epoch? name).getD Epoch.zero := by
  unfold epoch? Shelf.collection
  cases Dict.find? holdings.live name <;> rfl

/-- Giving out an epoch leaves the documents. -/
theorem find?_advance (deleted : Bool) (other id : String) :
    ((holdings.advance name now).shelf deleted).find? other id =
      (holdings.shelf deleted).find? other id := by
  cases deleted with
  | false =>
    simp only [shelf, advance, Bool.false_eq_true, if_false, Shelf.find?_insert]
    split
    · rename_i same
      rw [same, Shelf.find?_eq]
    · rfl
  | true => rfl

theorem epoch?_advance (other : String) : (holdings.advance name now).epoch? other =
    if other = name then some (holdings.nextEpoch name now) else holdings.epoch? other := by
  simp only [epoch?, advance, Dict.find?_insert]
  split <;> rfl

theorem epoch?_store (document : Document) (other : String) :
    (holdings.store name document now).epoch? other =
      (holdings.advance name now).epoch? other := by
  simp only [epoch?, store, advance, Dict.find?_insert]
  split <;> rfl

variable {holdings name} in
theorem epoch?_bury {id : String} {document : Document}
    (found : holdings.live.find? name id = some document) (other : String) :
    (holdings.bury name id now).epoch? other = (holdings.advance name now).epoch? other := by
  rw [bury_eq now found]
  simp only [epoch?, advance, Dict.find?_insert]
  split <;> rfl

/-! ## Bounds -/

/-- Every latest epoch lies between zero and a bound. -/
def UpTo (bound : Int) (holdings : Holdings) : Prop :=
  ∀ name, 0 ≤ (holdings.live.collection name).latest.millis ∧
    (holdings.live.collection name).latest.millis ≤ bound

theorem upTo_empty {bound : Int} (nonneg : 0 ≤ bound) : empty.UpTo bound :=
  fun _ => ⟨Int.le_refl 0, nonneg⟩

variable {holdings name now} {bound : Int}

theorem UpTo.mono {more : Int} (upTo : holdings.UpTo bound) (le : bound ≤ more) :
    holdings.UpTo more :=
  fun name => ⟨(upTo name).1, Int.le_trans (upTo name).2 le⟩

/-- The next epoch is the clock's, or one past the latest one where that is more. -/
theorem UpTo.nextEpoch_millis (upTo : holdings.UpTo bound) (room : bound + 1 < 2 ^ 63) :
    (holdings.nextEpoch name now).millis =
      max now.millis ((holdings.live.collection name).latest.millis + 1) := by
  obtain ⟨low, high⟩ := upTo name
  unfold nextEpoch Epoch.after
  split
  · rename_i past
    rw [Epoch.le_iff] at past
    rw [Epoch.next_millis (by omega) (by omega)]
    omega
  · rename_i later
    rw [Epoch.le_iff] at later
    omega

theorem UpTo.change {after : Holdings} {stamps : List Stamp} (upTo : holdings.UpTo bound)
    (clock : now.millis ≤ bound) (room : bound + stamps.length < 2 ^ 63)
    (change : Change now holdings stamps after) : after.UpTo (bound + stamps.length) := by
  rcases change.stamped with ⟨rfl, same⟩ | ⟨given, rfl, latest⟩
  · rw [UpTo, same]
    simpa [UpTo] using upTo
  · simp only [List.length_singleton] at room ⊢
    intro other
    rw [latest]
    split
    · have next := @UpTo.nextEpoch_millis holdings given now bound upTo room
      obtain ⟨low, high⟩ := upTo given
      omega
    · obtain ⟨low, high⟩ := upTo other
      omega

/-- The bound grows by one with every stamp. -/
theorem UpTo.changes {after : Holdings} {stamps : List Stamp} (upTo : holdings.UpTo bound)
    (clock : now.millis ≤ bound) (room : bound + stamps.length < 2 ^ 63)
    (changes : Changes now holdings stamps after) : after.UpTo (bound + stamps.length) := by
  induction changes generalizing bound with
  | refl => simpa using upTo
  | @cons holdings between after earlier later first rest ih =>
    rw [List.length_append, Int.natCast_add, ← Int.add_assoc] at room ⊢
    exact ih (upTo.change clock (by omega) first) (by omega) room

end Holdings
end DocStore
