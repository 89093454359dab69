import DocStore.Proofs.Memory.Rollback
import DocStore.Proofs.Memory.Sound

/-!
# Epochs along a run

The stamps of a run are those of the committed transactions, in the order of the commits,
and then those of the open transaction.  `good_play` reduces what holds of the holdings
and the stamps of every run to single changes: a rollback brings both back together, so
nothing has to be said about it again.

From it follow the representation invariant of the store and the order of the epochs.
Both hold as long as no epoch reaches the greatest one of 64 bits, and that is out of
reach of a clock below `2 ^ 62` and fewer than `2 ^ 62` stamps.
-/

namespace DocStore

namespace Move

/-- What the clock reads during a move. -/
def reading? {engine : Engine} : Move engine → Option Epoch
  | .run _ surroundings _ => some surroundings.now
  | .begin _ | .commit _ | .rollback _ | .drop _ => none

/-- Whether a move erases everything. -/
def isFlush : Move documentEngine → Bool
  | .run _ _ .flush => true
  | _ => false

/-- The greatest reading of the clock during some moves, at least zero. -/
def highestReading {engine : Engine} (moves : List (Move engine)) : Int :=
  (moves.filterMap reading?).foldr (fun reading highest => max reading.millis highest) 0

theorem highestReading_nonneg {engine : Engine} (moves : List (Move engine)) :
    0 ≤ highestReading moves := by
  unfold highestReading
  generalize moves.filterMap reading? = readings
  induction readings with
  | nil => exact Int.le_refl 0
  | cons reading rest ih => exact Int.le_trans ih (Int.le_max_right _ _)

theorem le_highestReading {engine : Engine} {moves : List (Move engine)} {move : Move engine}
    {reading : Epoch} (member : move ∈ moves) (read : reading ∈ move.reading?) :
    reading.millis ≤ highestReading moves := by
  have listed : reading ∈ moves.filterMap reading? := List.mem_filterMap.2 ⟨move, member, read⟩
  unfold highestReading
  generalize moves.filterMap reading? = readings at listed ⊢
  induction readings with
  | nil => cases listed
  | cons first rest ih =>
    rw [List.foldr_cons]
    rcases List.mem_cons.1 listed with rfl | later
    · exact Int.le_max_left _ _
    · exact Int.le_trans (ih later) (Int.le_max_right _ _)

theorem highestReading_lt {engine : Engine} {moves : List (Move engine)} {bound : Int}
    (positive : 0 < bound)
    (below : ∀ move ∈ moves, ∀ reading ∈ move.reading?, reading.millis < bound) :
    highestReading moves < bound := by
  have listed : ∀ reading ∈ moves.filterMap reading?, reading.millis < bound := by
    intro reading member
    obtain ⟨move, inMoves, read⟩ := List.mem_filterMap.1 member
    exact below move inMoves reading read
  unfold highestReading
  generalize moves.filterMap reading? = readings at listed ⊢
  induction readings with
  | nil => exact positive
  | cons first rest ih =>
    rw [List.foldr_cons]
    have others := ih fun reading member => listed reading (List.mem_cons_of_mem _ member)
    exact Int.max_lt.2 ⟨listed first List.mem_cons_self, others⟩

end Move

namespace SerialStore

open Holdings (Change Changes)

/-- A store of documents before its first transaction. -/
def fresh : SerialStore documentEngine := start (Holdings.empty, 0)

/-- What the store holds: what the open transaction sees, or what the last one left. -/
def holdings (store : SerialStore documentEngine) : Holdings :=
  match store.lock with
  | .free content => content.1
  | .held _ session => session.holdings

theorem holdings_of_session {store : SerialStore documentEngine} {client : String}
    {session : DocumentSession} (opened : store.session client = .ok session) :
    store.holdings = session.holdings := by
  unfold holdings
  rw [lock_of_session opened]

/-- The stamps of a run. -/
def stampHistory (moves : List (Move documentEngine)) : History Stamp :=
  fresh.playNoted DocumentSession.stamps History.empty moves

/-- The last move of a run adds its stamps to those of the moves before it. -/
theorem stampHistory_concat (moves : List (Move documentEngine)) (move : Move documentEngine) :
    stampHistory (moves ++ [move]) =
      (fresh.play moves).noted DocumentSession.stamps (stampHistory moves) move :=
  @playNoted_concat documentEngine Stamp DocumentSession.stamps fresh History.empty moves move

/-- A property of holdings and stamps holds of what the store holds and, while a
transaction is open, also of what its rollback leaves. -/
def Keeps (Good : Holdings → List Stamp → Prop) :
    Lock documentEngine → History Stamp → Prop
  | .free content, history => history.pending = [] ∧ Good content.1 history.committed
  | .held _ session, history =>
    Good session.undo history.committed ∧ Good session.holdings history.all

theorem good_of_changes {Good : Holdings → List Stamp → Prop} {now : Epoch}
    (change : ∀ {holdings stamps after past}, Good holdings past →
      Change now holdings stamps after → Good after (past ++ stamps))
    {holdings after : Holdings} {stamps past : List Stamp} (good : Good holdings past)
    (changes : Changes now holdings stamps after) : Good after (past ++ stamps) := by
  induction changes generalizing past with
  | refl => simpa using good
  | cons first rest ih =>
    rw [← List.append_assoc]
    exact ih (change good first)

theorem good_of_run {Good : Holdings → List Stamp → Prop} {surroundings : Surroundings}
    {op : DocumentOp}
    (change : ∀ {holdings stamps after past}, Good holdings past →
      Change surroundings.now holdings stamps after → Good after (past ++ stamps))
    (flush : op = .flush → ∀ {holdings past}, Good holdings past → Good Holdings.empty past)
    {session : DocumentSession} {past : List Stamp} (good : Good session.holdings past) :
    Good (Outcome.state (session.run surroundings op)).holdings
      (past ++ session.stamps surroundings op) := by
  by_cases erases : op = .flush
  · have erased : Good Holdings.empty past := flush erases good
    subst erases
    rw [DocumentSession.stamps, List.append_nil]
    exact erased
  · exact good_of_changes change good (DocumentSession.changes_run session surroundings erases)

/-- What holds of an empty store and is kept by every change, and by every flush of the
run, holds after the run. -/
theorem good_play (Good : Holdings → List Stamp → Prop) {moves : List (Move documentEngine)}
    (initial : Good Holdings.empty [])
    (change : ∀ {now}, (∃ move ∈ moves, now ∈ move.reading?) →
      ∀ {holdings stamps after past}, Good holdings past → Change now holdings stamps after →
        Good after (past ++ stamps))
    (flush : (∃ move ∈ moves, move.isFlush = true) →
      ∀ {holdings past}, Good holdings past → Good Holdings.empty past) :
    Keeps Good (fresh.play moves).lock (stampHistory moves) := by
  refine invariant_play (Keeps Good) ⟨rfl, initial⟩ ?_
  intro move member lock past next future transition keeps
  cases transition with
  | idle => exact keeps
  | begun client content =>
    obtain ⟨_, good⟩ := keeps
    refine ⟨good, ?_⟩
    rw [History.all, List.append_nil]
    exact good
  | worked client surroundings op session =>
    obtain ⟨origin, current⟩ := keeps
    have undone := DocumentSession.undo_state_run session surroundings op
    refine ⟨undone.symm ▸ origin, ?_⟩
    rw [History.all, ← List.append_assoc]
    refine good_of_run (change ⟨_, member, rfl⟩) (fun erases => ?_) current
    exact flush ⟨_, member, by rw [erases]; rfl⟩
  | committed client session =>
    exact ⟨rfl, keeps.2⟩
  | undone move client session _ _ =>
    exact ⟨rfl, keeps.1⟩

theorem good_holdings (Good : Holdings → List Stamp → Prop) {store : SerialStore documentEngine}
    {history : History Stamp} (keeps : Keeps Good store.lock history) :
    Good store.holdings history.all := by
  unfold holdings
  cases locked : store.lock with
  | free content =>
    rw [locked] at keeps
    obtain ⟨nothing, good⟩ := keeps
    simpa [History.all, nothing] using good
  | held client session =>
    rw [locked] at keeps
    exact keeps.2

end SerialStore
end DocStore
