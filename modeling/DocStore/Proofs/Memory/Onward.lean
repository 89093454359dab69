import DocStore.Proofs.Memory.Deletion
import DocStore.Proofs.Memory.Isolation

/-!
# Runs that take nothing back

A flush, a rollback and giving up an open transaction take back what was done.  A run without
them only adds to the stamps (`SerialStore.changes_of_step`), so the documents of a collection
succeed those of before, and what is created gets an epoch past all of theirs
(`SerialStore.lt_of_created`).
-/

namespace DocStore

/-- A document is created under the next epoch of its collection. -/
theorem DocumentSession.modified_of_run_create {session after : DocumentSession}
    {surroundings : Surroundings} {path : Path} {document stored : Document}
    (ran : session.run surroundings (.create path document) = .ok (.document stored, after)) :
    stored.modified = session.holdings.nextEpoch path.collection surroundings.now := by
  cases effect_of_run ran with
  | read op answer reads => cases reads
  | created path document node named free => rw [store_fst]
  | minted path document labelled counted node unnamed naming counting => rw [store_fst, counting]

namespace SerialStore

open Holdings (Changes)

variable {moves later : List (Move documentEngine)}

/-- Whether a move takes something back: a flush, or the end of an open transaction without a
commit. -/
def takesBack (store : SerialStore documentEngine) : Move documentEngine → Bool
  | .run client _ .flush | .rollback client | .drop client => store.lock.holder? = some client
  | .run _ _ _ | .begin _ | .commit _ => false

/-- None of some moves takes anything back. -/
def Onward (store : SerialStore documentEngine) : List (Move documentEngine) → Prop
  | [] => True
  | move :: rest => store.takesBack move = false ∧ (store.step move).Onward rest

/-- While no transaction is open, there are no stamps of one. -/
theorem pending_of_free {content : documentEngine.Content}
    (free : (fresh.play moves).lock = .free content) : (stampHistory moves).pending = [] := by
  have keeps : Keeps (fun _ _ => True) (fresh.play moves).lock (stampHistory moves) :=
    good_play _ trivial (fun _ _ _ _ _ _ _ => trivial) fun _ _ _ _ => trivial
  rw [free] at keeps
  exact keeps.1

/-- A move that takes nothing back changes documents one after the other, under new stamps. -/
theorem changes_of_step {move : Move documentEngine}
    (onward : (fresh.play moves).takesBack move = false) :
    ∃ now stamps, Changes now (fresh.play moves).holdings stamps
        (fresh.play (moves ++ [move])).holdings ∧
      (stampHistory (moves ++ [move])).all = (stampHistory moves).all ++ stamps := by
  have transition := transition_step DocumentSession.stamps (fresh.play moves)
    (stampHistory moves) move
  have nothing := @pending_of_free moves
  rw [← stampHistory_concat, ← play_concat] at transition
  unfold takesBack at onward
  unfold holdings
  generalize (fresh.play moves).lock = lock at transition nothing onward
  generalize (fresh.play (moves ++ [move])).lock = next at transition
  generalize stampHistory moves = past at transition nothing
  generalize stampHistory (moves ++ [move]) = future at transition
  cases transition with
  | idle => exact ⟨Epoch.zero, [], .refl _, (List.append_nil _).symm⟩
  | begun client content =>
    refine ⟨Epoch.zero, [], .refl _, ?_⟩
    rw [History.all, History.all, nothing rfl, List.append_nil]
    exact (List.append_nil _).symm
  | worked client surroundings op session =>
    have lasting : op ≠ .flush := by
      rintro rfl
      simp at onward
    exact ⟨surroundings.now, _, DocumentSession.changes_run session surroundings lasting,
      (List.append_assoc _ _ _).symm⟩
  | committed client session =>
    exact ⟨Epoch.zero, [], .refl _, rfl⟩
  | undone move client session _ ends =>
    rcases ends with rfl | rfl <;> simp at onward

/-- Along moves that take nothing back, stamps are added, and as long as epochs do not start
anew, the documents of every collection succeed those of before. -/
theorem onward_play (onward : (fresh.play moves).Onward later) :
    ∃ stamps, (stampHistory (moves ++ later)).all = (stampHistory moves).all ++ stamps ∧
      (Stamp.Unwrapped (stampHistory (moves ++ later)).all → ∀ name,
        (fresh.play moves).holdings.Succeeds (fresh.play (moves ++ later)).holdings name) := by
  induction later generalizing moves with
  | nil =>
    rw [List.append_nil]
    exact ⟨[], (List.append_nil _).symm, fun _ => .refl _⟩
  | cons move rest ih =>
    obtain ⟨first, others⟩ := onward
    rw [← play_concat] at others
    obtain ⟨now, given, changes, all⟩ := changes_of_step first
    have joined : moves ++ [move] ++ rest = moves ++ move :: rest := (List.append_cons ..).symm
    obtain ⟨more, extended, succeeds⟩ := ih others
    rw [all, joined, List.append_assoc] at extended
    rw [joined] at succeeds
    refine ⟨given ++ more, extended, fun unwrapped name => ?_⟩
    have still := unwrapped
    rw [extended, ← List.append_assoc] at still
    exact (changes.succeeds (kept_play moves) still.left name).trans (succeeds unwrapped name)

/-- As long as epochs do not start anew, a document that is created gets an epoch past the latest
one of its collection. -/
theorem latest_lt_of_created {client : String} {surroundings : Surroundings} {path : Path}
    {document stored : Document} {after : SerialStore documentEngine}
    (unwrapped : Stamp.Unwrapped (stampHistory moves).all)
    (created : (fresh.play moves).run client surroundings (.create path document) =
      .ok (.document stored, after)) :
    ((fresh.play moves).holdings.live.collection path.collection).latest < stored.modified := by
  obtain ⟨session, outcome, opened, ran, -⟩ := session_of_run_ok created
  obtain ⟨-, tracks, -⟩ := (kept_play moves).2 unwrapped
  have stamped := DocumentSession.modified_of_run_create ran
  rw [← holdings_of_session opened] at stamped
  rw [stamped]
  exact (tracks path.collection).lt_after (unwrapped.epochsIn path.collection) surroundings.now

/-- What is created after moves that take nothing back gets an epoch past that of every document
and every tombstone that its collection had before them. -/
theorem lt_of_created {client : String} {surroundings : Surroundings} {path : Path}
    {document stored : Document} {after : SerialStore documentEngine}
    (onward : (fresh.play moves).Onward later)
    (unwrapped : Stamp.Unwrapped (stampHistory (moves ++ later)).all)
    (created : (fresh.play (moves ++ later)).run client surroundings (.create path document) =
      .ok (.document stored, after)) {deleted : Bool} {id : String} {old : Document}
    (found : ((fresh.play moves).holdings.shelf deleted).find? path.collection id = some old) :
    old.modified < stored.modified := by
  obtain ⟨stamps, extended, succeeds⟩ := onward_play onward
  have earlier := unwrapped
  rw [extended] at earlier
  obtain ⟨dated, -, -⟩ := (kept_play moves).2 earlier.left
  have bounded := dated.bounded found
  have grows := (succeeds unwrapped path.collection).grows
  have past := latest_lt_of_created unwrapped created
  rw [Epoch.le_iff] at bounded grows
  rw [Epoch.lt_iff] at past ⊢
  omega

end SerialStore
end DocStore
