import Mathlib.Algebra.Group.Nat.Defs
import DocStore.Proofs.Memory.Timeline

/-!
# The representation invariant and the order of epochs

Whatever clients do and whatever the clock reads, the store of documents keeps its
representation invariant (`sound_play`), and without a flush the epochs that a collection
gives out increase strictly, the latest epoch being the last of them
(`stamps_strictly_increase`).
-/

namespace DocStore

namespace Stamp

/-- No epoch is the greatest one of 64 bits, after which epochs would start anew. -/
def Unwrapped (stamps : List Stamp) : Prop :=
  ∀ stamp ∈ stamps, stamp.epoch.millis < 2 ^ 63 - 1

theorem Unwrapped.left {earlier later : List Stamp}
    (unwrapped : Unwrapped (earlier ++ later)) : Unwrapped earlier :=
  fun stamp member => unwrapped stamp (List.mem_append_left later member)

theorem Unwrapped.epochsIn {stamps : List Stamp} (unwrapped : Unwrapped stamps) (name : String) :
    Epoch.Unwrapped (epochsIn name stamps) :=
  fun epoch member => unwrapped ⟨name, epoch⟩ ((mem_epochsIn_iff name epoch stamps).1 member)

end Stamp

namespace Holdings

/-! ## Every collection on its own -/

/-- A property of the latest epoch and of those given out holds of every collection. -/
def Everywhere (Good : Epoch → List Epoch → Prop) (holdings : Holdings) (stamps : List Stamp) :
    Prop :=
  ∀ name, Good (holdings.live.collection name).latest (Stamp.epochsIn name stamps)

/-- A change gives out the next epoch of one collection at most, so it keeps what giving
out the next epoch keeps. -/
theorem Everywhere.change {Good : Epoch → List Epoch → Prop} {now : Epoch}
    {holdings after : Holdings} {past stamps : List Stamp}
    (everywhere : holdings.Everywhere Good past) (change : Change now holdings stamps after)
    (give : ∀ name, Good (holdings.live.collection name).latest (Stamp.epochsIn name past) →
      Good (holdings.nextEpoch name now)
        (Stamp.epochsIn name past ++ [holdings.nextEpoch name now])) :
    after.Everywhere Good (past ++ stamps) := by
  intro name
  rw [Stamp.epochsIn_append]
  rcases change.stamped with ⟨rfl, same⟩ | ⟨given, rfl, latest⟩
  · rw [same, Stamp.epochsIn_nil, List.append_nil]
    exact everywhere name
  · rw [latest]
    by_cases here : name = given
    · subst here
      rw [if_pos rfl, Stamp.epochsIn_single_self]
      exact give name (everywhere name)
    · rw [if_neg here, Stamp.epochsIn_single_other (Ne.symm here), List.append_nil]
      exact everywhere name

/-! ## Documents and their epochs -/

/-- No document has a negative epoch. -/
def Positive (holdings : Holdings) : Prop :=
  ∀ {deleted name id document}, (holdings.shelf deleted).find? name id = some document →
    0 ≤ document.modified.millis

theorem positive_empty : empty.Positive := by
  intro deleted name id document found
  cases deleted <;> cases found

theorem Positive.renews {before after : Holdings} {name : String} {document : Document}
    (positive : before.Positive) (renews : before.Renews after name document)
    (nonneg : 0 ≤ document.modified.millis) : after.Positive := by
  intro deleted other key found present
  rcases renews.of_find? present with ⟨_, _, _, rfl⟩ | old
  · exact nonneg
  · exact positive old

theorem Positive.change {now : Epoch} {holdings after : Holdings} {stamps : List Stamp}
    (positive : holdings.Positive) (placed : holdings.Placed)
    (change : Change now holdings stamps after)
    (nonneg : ∀ stamp ∈ stamps, 0 ≤ stamp.epoch.millis) : after.Positive := by
  cases change with
  | store name document revived =>
    exact positive.renews (renews_store holdings name now revived) (nonneg _ List.mem_cons_self)
  | bury name id document found =>
    exact positive.renews (renews_bury now found (placed.id_of_live found))
      (nonneg _ List.mem_cons_self)
  | sweep olderThan name => exact fun found => positive (find?_of_sweep found)

/-- Where documents stand, and what holds of their epochs as long as these do not start
anew. -/
def Kept (holdings : Holdings) (stamps : List Stamp) : Prop :=
  holdings.Placed ∧
    (Stamp.Unwrapped stamps →
      holdings.Dated ∧ holdings.Everywhere Epoch.Tracks stamps ∧ holdings.Positive)

theorem kept_empty (stamps : List Stamp) : empty.Kept stamps :=
  ⟨placed_empty, fun _ => ⟨dated_empty, fun _ => Epoch.tracks_zero _, positive_empty⟩⟩

theorem Kept.change {now : Epoch} {holdings after : Holdings} {past stamps : List Stamp}
    (kept : holdings.Kept past) (change : Change now holdings stamps after) :
    after.Kept (past ++ stamps) := by
  obtain ⟨placed, epochs⟩ := kept
  refine ⟨placed.change change, fun unwrapped => ?_⟩
  obtain ⟨dated, tracks, positive⟩ := epochs unwrapped.left
  have later : ∀ stamp ∈ stamps,
      (holdings.live.collection stamp.collection).latest < stamp.epoch := by
    intro stamp member
    rcases change.stamped with ⟨rfl, _⟩ | ⟨name, rfl, _⟩
    · cases member
    · cases List.mem_singleton.1 member
      exact (tracks name).lt_after (unwrapped.left.epochsIn name) now
  refine ⟨dated.change placed change later, ?_, positive.change placed change ?_⟩
  · exact tracks.change change fun name given => given.give (unwrapped.left.epochsIn name) now
  · intro stamp member
    have low := (tracks stamp.collection).nonneg
    have past := later stamp member
    rw [Epoch.lt_iff] at past
    omega

end Holdings

namespace SerialStore

/-! ## Runs -/

/-- After every run documents stand in their places, and their epochs are in order as long
as epochs do not start anew. -/
theorem kept_play (moves : List (Move documentEngine)) :
    (fresh.play moves).holdings.Kept (stampHistory moves).all := by
  refine good_holdings Holdings.Kept (good_play _ (Holdings.kept_empty []) ?_ ?_)
  · exact fun _ _ _ _ _ kept change => kept.change change
  · exact fun _ _ past _ => Holdings.kept_empty past

theorem within_play (moves : List (Move documentEngine)) :
    (fresh.play moves).holdings.Everywhere (Epoch.Within (Move.highestReading moves))
      (stampHistory moves).all := by
  have nonneg := Move.highestReading_nonneg moves
  refine good_holdings (Holdings.Everywhere (Epoch.Within (Move.highestReading moves)))
    (good_play _ ?_ ?_ ?_)
  · exact fun _ => Epoch.within_zero nonneg fun _ member => by cases member
  · rintro now ⟨move, member, read⟩ holdings stamps after past within change
    exact within.change change fun _ given =>
      given.give (Move.le_highestReading member read)
  · exact fun _ _ _ within name => Epoch.within_zero nonneg (within name).given_le

/-- A clock below `2 ^ 62` and fewer than `2 ^ 62` stamps do not get to the greatest
epoch. -/
theorem unwrapped_play {moves : List (Move documentEngine)}
    (clock : ∀ move ∈ moves, ∀ reading ∈ move.reading?, reading.millis < 2 ^ 62)
    (few : (stampHistory moves).all.length < 2 ^ 62) :
    Stamp.Unwrapped (stampHistory moves).all := by
  intro stamp member
  have peak : Move.highestReading moves < 2 ^ 62 := Move.highestReading_lt (by decide) clock
  have listed := (Stamp.mem_epochsIn_iff stamp.collection stamp.epoch _).2 member
  have far := (within_play moves stamp.collection).given_le _ listed
  have fewer := Stamp.length_epochsIn_le stamp.collection (stampHistory moves).all
  omega

theorem increasing_play {moves : List (Move documentEngine)}
    (lasting : ∀ move ∈ moves, move.isFlush = false)
    (unwrapped : Stamp.Unwrapped (stampHistory moves).all) :
    (fresh.play moves).holdings.Everywhere Epoch.Increasing (stampHistory moves).all := by
  refine good_holdings
    (fun holdings stamps => Stamp.Unwrapped stamps →
      holdings.Everywhere Epoch.Increasing stamps)
    (good_play _ ?_ ?_ ?_) unwrapped
  · exact fun _ _ => Epoch.increasing_zero
  · intro now _ holdings stamps after past increasing change unwrapped
    exact (increasing unwrapped.left).change change fun name given =>
      given.give (unwrapped.left.epochsIn name) now
  · rintro ⟨move, member, flushes⟩
    rw [lasting move member] at flushes
    cases flushes

/-- In every state that clients can bring the store into, every document stands under its own
identifier on the shelf of its mark and on no other, the epochs of a collection are pairwise
different and none lies past the latest one, a collection with tombstones has a live side, and no
collection of tombstones is empty. -/
theorem sound_play (moves : List (Move documentEngine))
    (clock : ∀ move ∈ moves, ∀ reading ∈ move.reading?, reading.millis < 2 ^ 62)
    (few : (stampHistory moves).all.length < 2 ^ 62) :
    (fresh.play moves).holdings.Sound := by
  obtain ⟨placed, epochs⟩ := kept_play moves
  obtain ⟨dated, _⟩ := epochs (unwrapped_play clock few)
  exact { placed, dated with }

/-- Under a clock that goes back, a document with another one below it is deleted, and one
of its identifier is stored again: the tombstone makes room, that of the other one stays. -/
theorem sound_play_after_revival :
    let moves : List (Move documentEngine) :=
      [.begin "c", .run "c" ⟨⟨7⟩, fun _ => "x"⟩ (.create ⟨"/a/*"⟩ (Document.withId "one")),
        .run "c" ⟨⟨6⟩, fun _ => "x"⟩ (.create ⟨"/a/one/b/*"⟩ (Document.withId "two")),
        .run "c" ⟨⟨-3⟩, fun _ => "x"⟩ (.delete ⟨"/a/one"⟩), .commit "c", .begin "d",
        .run "d" ⟨⟨0⟩, fun _ => "x"⟩ (.create ⟨"/a/*"⟩ (Document.withId "one"))]
    (∀ move ∈ moves, ∀ reading ∈ move.reading?, reading.millis < 2 ^ 62) ∧
      (stampHistory moves).all.length < 2 ^ 62 ∧
      ((fresh.play moves).holdings.live.find? "/a" "one").isSome = true ∧
      ((fresh.play moves).holdings.dead.find? "/a/one/b" "two").isSome = true ∧
      (fresh.play moves).holdings.Sound := by
  intro moves
  have clock : ∀ move ∈ moves, ∀ reading ∈ move.reading?, reading.millis < 2 ^ 62 := by
    simp [moves, Move.reading?]
  have few : (stampHistory moves).all.length < 2 ^ 62 := by decide +kernel
  exact ⟨clock, few, by decide +kernel, by decide +kernel, sound_play moves clock few⟩

/-- Without a flush, the epochs that a collection gave out in the committed transactions and in the
open one increase strictly, and the latest epoch that the store tells is the last of them, or zero.
It is at most as far past the highest reading of the clock as the collection gave out epochs, and
one more epoch still has 64 bits. -/
theorem stamps_strictly_increase (moves : List (Move documentEngine))
    (lasting : ∀ move ∈ moves, move.isFlush = false)
    (clock : ∀ move ∈ moves, ∀ reading ∈ move.reading?, reading.millis < 2 ^ 62)
    (few : (stampHistory moves).all.length < 2 ^ 62) (name : String) :
    let epochs := Stamp.epochsIn name (stampHistory moves).all
    let latest := ((fresh.play moves).holdings.live.collection name).latest
    epochs.Pairwise (· < ·) ∧
      latest = epochs.getLast?.getD Epoch.zero ∧
      (∀ client session surroundings path, (fresh.play moves).session client = .ok session →
        path.isNode = true → path.collection = name →
          DocumentSession.run session surroundings (.latestEpoch path) =
            .ok (.epoch (epochs.getLast?.getD Epoch.zero), session)) ∧
      latest.millis ≤ Move.highestReading moves + epochs.length ∧
      latest.millis + 1 < 2 ^ 63 := by
  intro epochs latest
  have unwrapped := unwrapped_play clock few
  have increasing := increasing_play lasting unwrapped name
  have last : latest = epochs.getLast?.getD Epoch.zero := increasing.last
  refine ⟨increasing.strict, last, ?_, (within_play moves name).latest_le, ?_⟩
  · intro client (session : DocumentSession) surroundings path opened node here
    have seen : (fresh.play moves).holdings = DocumentSession.holdings session :=
      holdings_of_session opened
    rw [← last]
    simp only [latest, seen, ← here]
    simp [DocumentSession.run, requireNode, node, bind, Except.bind, pure, Except.pure]
  · have room : latest.millis < 2 ^ 63 - 1 := increasing.latest_lt (unwrapped.epochsIn name)
    omega

/-- The clock stands still, goes back and turns negative, the only document is deleted and
its tombstone purged, and a transaction is given up: four epochs stay, the last one of the
open transaction. -/
theorem stamps_strictly_increase_past_purge :
    let moves : List (Move documentEngine) :=
      [.begin "c", .run "c" ⟨⟨7⟩, fun _ => "x"⟩ (.create ⟨"/a/*"⟩ (Document.withId "one")),
        .run "c" ⟨⟨7⟩, fun _ => "x"⟩ (.delete ⟨"/a/one"⟩),
        .run "c" ⟨⟨7⟩, fun _ => "x"⟩ (.purge Epoch.zero), .commit "c", .begin "d",
        .run "d" ⟨⟨90⟩, fun _ => "x"⟩ (.create ⟨"/a/*"⟩ (Document.withId "two")), .drop "d",
        .begin "c", .run "c" ⟨⟨-3⟩, fun _ => "x"⟩ (.create ⟨"/a/*"⟩ (Document.withId "one")),
        .run "c" ⟨⟨0⟩, fun _ => "x"⟩ (.update ⟨⟨"/a/one"⟩, Document.withId "one"⟩)]
    let epochs := Stamp.epochsIn "/a" (stampHistory moves).all
    let latest := ((fresh.play moves).holdings.live.collection "/a").latest
    (∀ move ∈ moves, move.isFlush = false) ∧
      (∀ move ∈ moves, ∀ reading ∈ move.reading?, reading.millis < 2 ^ 62) ∧
      (stampHistory moves).all.length < 2 ^ 62 ∧
      epochs = [⟨7⟩, ⟨8⟩, ⟨9⟩, ⟨10⟩] ∧
      epochs.Pairwise (· < ·) ∧
      latest = epochs.getLast?.getD Epoch.zero ∧
      (∀ client session surroundings path, (fresh.play moves).session client = .ok session →
        path.isNode = true → path.collection = "/a" →
          DocumentSession.run session surroundings (.latestEpoch path) =
            .ok (.epoch (epochs.getLast?.getD Epoch.zero), session)) ∧
      latest.millis ≤ Move.highestReading moves + epochs.length ∧
      latest.millis + 1 < 2 ^ 63 := by
  intro moves epochs latest
  have lasting : ∀ move ∈ moves, move.isFlush = false := by
    simp [moves, Move.isFlush]
  have clock : ∀ move ∈ moves, ∀ reading ∈ move.reading?, reading.millis < 2 ^ 62 := by
    simp [moves, Move.reading?]
  have few : (stampHistory moves).all.length < 2 ^ 62 := by decide +kernel
  exact ⟨lasting, clock, few, by decide +kernel,
    stamps_strictly_increase moves lasting clock few "/a"⟩

end SerialStore
end DocStore
