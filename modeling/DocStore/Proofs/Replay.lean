import DocStore.Proofs.Serial

/-!
# Transactions as if one after the other

Whatever clients do with a store that has a lock, its transactions look as if they had run
one after the other.  Replaying the calls of the committed transactions, in the order of the
commits, gives what a transaction finds when it begins; replaying its own calls behind them
gives what it sees, and the replay is what the store answers it from (`SerialStore.Serial`).
Calls that failed are replayed as they were made.  Calls of transactions that were undone and of
those that are still open elsewhere do not occur in the replay.

This needs of an engine that its operations depend on what transactions can see and on nothing
else, and that undoing a session gives back what was there when it started
(`Engine.View`).
-/

namespace DocStore

namespace Engine

variable (engine : Engine)

/-- An operation that was called, and what it took from outside. -/
abbrev Call := Surroundings × engine.Op

variable {engine}

/-- A session after a call, whether it succeeds or fails. -/
def perform (session : engine.Session) (call : engine.Call) : engine.Session :=
  (engine.run session call.1 call.2).state

/-- The session of calls that are made one after the other from a blank store. -/
def replay (blank : engine.Content) (calls : List engine.Call) : engine.Session :=
  calls.foldl perform (engine.start blank)

theorem replay_append (blank : engine.Content) (calls : List engine.Call) (call : engine.Call) :
    replay blank (calls ++ [call]) = perform (replay blank calls) call := by
  simp [replay]

/-- What transactions can see. -/
structure View (engine : Engine) where
  /-- What can be seen of a store. -/
  Seen : Type
  /-- What a store shows while no transaction is open. -/
  content : engine.Content → Seen
  /-- What a session shows. -/
  session : engine.Session → Seen
  /-- What a session takes from outside in its next call. -/
  observed : engine.Session → Surroundings → Surroundings
  session_start : ∀ stored, session (engine.start stored) = content stored
  content_commit : ∀ work, content (engine.commit work) = session work
  content_undo_start : ∀ stored, content (engine.undo (engine.start stored)) = content stored
  /-- No operation changes what a rollback leaves. -/
  content_undo_run : ∀ work surroundings op,
    content (engine.undo (engine.run work surroundings op).state) = content (engine.undo work)
  /-- Sessions that show the same answer the same and go on to show the same. -/
  run_congr : ∀ {left right}, session left = session right → ∀ surroundings op,
    (engine.run left surroundings op).result =
        (engine.run right (observed left surroundings) op).result ∧
      session (engine.run left surroundings op).state =
        session (engine.run right (observed left surroundings) op).state

namespace View

variable (view : View engine)

/-- The note on a call: what was called, and what it took from outside. -/
def note (session : engine.Session) (surroundings : Surroundings) (op : engine.Op) :
    List engine.Call :=
  [(view.observed session surroundings, op)]

end View
end Engine

namespace SerialStore

variable {engine : Engine}

/-- The calls of a list of moves: those of the committed transactions and those of the open
one. -/
def calls (view : Engine.View engine) (blank : engine.Content) (moves : List (Move engine)) :
    History engine.Call :=
  playNoted view.note (start blank) History.empty moves

/-! ## Holders of the lock -/

/-- The client that holds the lock has a transaction. -/
def Registered (store : SerialStore engine) : Prop :=
  ∀ client session, store.lock = .held client session → store.clients.contains client = true

/-- Why a client whose transaction is not open is refused: its transaction is finished, or it has
none. -/
theorem session_of_closed {store : SerialStore engine} {client : String}
    (closed : ∀ session, store.session client ≠ .ok session) :
    store.session client =
      .error (if store.clients.contains client then .store .finished else .noTransaction) := by
  cases found : store.session client with
  | ok session => exact absurd found (closed session)
  | error error =>
    unfold SerialStore.session at found
    split at found
    case isFalse none =>
      cases found
      rw [if_neg none]
    case isTrue known =>
      rw [if_pos known]
      split at found
      · split at found <;> cases found
        rfl
      · cases found
        rfl

theorem drop_fst (store : SerialStore engine) (client : String) :
    (store.drop client).1 = store.clients.contains client := by
  unfold SerialStore.drop
  split
  · rename_i known
    rw [known]
    split <;> rfl
  · rename_i none
    exact (Bool.eq_false_iff.2 none).symm

/-- Of the other clients, giving up takes none away. -/
theorem contains_clients_drop (store : SerialStore engine) {client other : String}
    (different : other ≠ client) :
    (store.drop client).2.clients.contains other = store.clients.contains other := by
  have erased : (store.clients.erase client).contains other = store.clients.contains other := by
    rw [Dict.contains, Dict.find?_erase, if_neg different, Dict.contains]
  unfold SerialStore.drop
  split
  · cases undone : store.rollback client with
    | error _ => exact erased
    | ok after =>
      have same : after.clients = store.clients := by
        unfold SerialStore.rollback at undone
        cases found : store.session client <;> rw [found] at undone <;> cases undone
        rfl
      rw [← same] at erased ⊢
      exact erased
  · rfl

theorem registered_step {store : SerialStore engine} (registered : store.Registered)
    (move : Move engine) : (store.step move).Registered := by
  intro holder held locked
  cases move with
  | begin client =>
    simp only [step, SerialStore.begin] at locked ⊢
    cases free : store.lock with
    | free content =>
      simp only [free, kept] at locked ⊢
      cases locked
      simp [NameSet.add, Dict.contains, Dict.find?_insert]
    | held other session =>
      simp only [free, kept] at locked ⊢
      exact registered holder held (free.trans locked)
  | run client surroundings op =>
    cases found : store.session client with
    | error error =>
      simp only [step, run_of_no_session found] at locked ⊢
      exact registered holder held locked
    | ok session =>
      rw [step_run found] at locked ⊢
      cases locked
      have member : store.clients.contains holder = true := contains_of_session found
      exact member
  | commit client | rollback client =>
    simp only [step, SerialStore.commit, SerialStore.rollback] at locked ⊢
    cases found : store.session client with
    | error error =>
      simp only [found, bind, Except.bind, kept] at locked ⊢
      exact registered holder held locked
    | ok session =>
      simp only [found, bind, Except.bind, pure, Except.pure, kept] at locked
      cases locked
  | drop client =>
    simp only [step] at locked ⊢
    cases found : store.session client with
    | ok session => rw [lock_drop_of_session found] at locked; cases locked
    | error error =>
      rw [lock_drop_of_error found] at locked
      have member := registered holder held locked
      have other : holder ≠ client := by
        rintro rfl
        rw [session_of_lock locked member] at found
        cases found
      rwa [contains_clients_drop store other]

theorem registered_play (blank : engine.Content) (moves : List (Move engine)) :
    ((start blank).play moves).Registered := by
  suffices general : ∀ store : SerialStore engine, store.Registered →
      (store.play moves).Registered from
    general _ fun _ _ locked => by cases locked
  induction moves with
  | nil => exact fun _ registered => registered
  | cons move rest ih => exact fun store registered => ih _ (registered_step registered move)

/-! ## The replay -/

section

variable (view : Engine.View engine) (blank : engine.Content)

/-- A lock behind which one sees the replay of the calls: of the committed ones where no
transaction is open, of all of them where one is. -/
def Replays : Lock engine → History engine.Call → Prop
  | .free content, history =>
    view.content content = view.session (engine.replay blank history.committed)
  | .held _ session, history =>
    view.session session = view.session (engine.replay blank history.all) ∧
      view.content (engine.undo session) = view.session (engine.replay blank history.committed)

variable {view blank} in
/-- Every transition goes on with the replay. -/
theorem replays_of_transition {move : Move engine} {lock next : Lock engine}
    {past future : History engine.Call}
    (transition : Transition view.note move lock past next future)
    (replays : Replays view blank lock past) : Replays view blank next future := by
  cases transition with
  | idle => exact replays
  | begun client content =>
    refine ⟨?_, ?_⟩
    · rw [view.session_start, History.all, List.append_nil]
      exact replays
    · rw [view.content_undo_start]
      exact replays
  | worked client surroundings op session =>
    refine ⟨?_, ?_⟩
    · rw [History.all, ← List.append_assoc, Engine.View.note, Engine.replay_append]
      exact (view.run_congr replays.1 surroundings op).2
    · rw [view.content_undo_run]
      exact replays.2
  | committed client session =>
    exact (view.content_commit session).trans replays.1
  | undone move client session => exact replays.2

theorem replays_play (moves : List (Move engine)) :
    Replays view blank ((start blank).play moves).lock (calls view blank moves) :=
  invariant_play (Replays view blank) (view.session_start blank).symm
    fun _ _ => replays_of_transition

end

/-- The transactions of a store look as if they had run one after the other. -/
structure Serial (view : Engine.View engine) (blank : engine.Content)
    (store : SerialStore engine) (history : History engine.Call) : Prop where
  /-- At most one transaction is open. -/
  exclusive : ∀ first second one two, store.session first = .ok one →
    store.session second = .ok two → first = second
  /-- A client can begin exactly while no transaction is open. -/
  enabled : ∀ client, (∃ opened, store.begin client = .ok opened) ↔
    ∀ other session, store.session other ≠ .ok session
  /-- A transaction begins with what the committed ones made, in the order of their commits. -/
  begins : ∀ client opened, store.begin client = .ok opened →
    ∃ session, opened.session client = .ok session ∧
      view.session session = view.session (engine.replay blank history.committed)
  /-- The open transaction sees the committed ones and its own calls. -/
  sees : ∀ client session, store.session client = .ok session →
    view.session session = view.session (engine.replay blank history.all)
  /-- What the store answers in it is what the replay answers. -/
  answers : ∀ client session surroundings op, store.session client = .ok session →
    (store.run client surroundings op).result =
      (engine.run (engine.replay blank history.all) (view.observed session surroundings)
        op).result.mapError .store
  /-- A client whose transaction is not open is refused whatever it asks for, and is told only
  whether its transaction is finished or it has none.  Neither this nor its giving up changes what
  the store holds. -/
  refused : ∀ client, (∀ session, store.session client ≠ .ok session) →
    let error := if store.clients.contains client then .store .finished else .noTransaction
    (∀ surroundings op, store.run client surroundings op = .error (error, store)) ∧
      store.commit client = .error error ∧ store.rollback client = .error error ∧
      (store.drop client).1 = store.clients.contains client ∧
      (store.drop client).2.lock = store.lock
  /-- A transaction that is rolled back or given up leaves no trace. -/
  undone : ∀ client session move, store.session client = .ok session →
    move = .rollback client ∨ move = .drop client →
      ∃ content, (store.step move).lock = .free content ∧
        view.content content = view.session (engine.replay blank history.committed)

theorem serial_play (view : Engine.View engine) (blank : engine.Content)
    (moves : List (Move engine)) :
    Serial view blank ((start blank).play moves) (calls view blank moves) := by
  have replays := replays_play view blank moves
  have registered := registered_play blank moves
  generalize (start blank).play moves = store at replays registered
  generalize calls view blank moves = history at replays
  have seen : ∀ client session, store.session client = .ok session →
      Replays view blank (.held client session) history := fun client session found =>
    lock_of_session found ▸ replays
  exact {
    exclusive := fun first second one two openFirst openSecond => by
      have same := (lock_of_session openFirst).symm.trans (lock_of_session openSecond)
      cases same
      rfl
    enabled := fun client => by
      constructor
      · rintro ⟨opened, began⟩ other session found
        simp [SerialStore.begin, lock_of_session found] at began
      · intro none
        cases locked : store.lock with
        | free content => exact ⟨_, (begin_of_free locked client).choose_spec.1⟩
        | held holder session =>
          exact absurd (session_of_lock locked (registered holder session locked))
            (none holder session)
    begins := fun client opened began => by
      cases locked : store.lock with
      | free content =>
        obtain ⟨same, began', found⟩ := begin_of_free locked client
        rw [began] at began'
        cases began'
        rw [locked] at replays
        exact ⟨_, found, (view.session_start content).trans replays⟩
      | held holder session => simp [SerialStore.begin, locked] at began
    sees := fun client session found => (seen client session found).1
    answers := fun client session surroundings op found => by
      rw [result_run found, (view.run_congr (seen client session found).1 surroundings op).1]
    refused := fun client closed => by
      have missing := session_of_closed closed
      refine ⟨run_of_no_session missing, ?_, ?_, ?_, lock_drop_of_error missing⟩
      · simp only [SerialStore.commit, missing, bind, Except.bind]
      · simp only [SerialStore.rollback, missing, bind, Except.bind]
      · exact store.drop_fst client
    undone := fun client session move found ends => by
      refine ⟨engine.undo session, ?_, (seen client session found).2⟩
      rcases ends with rfl | rfl
      · simp [step, rollback_of_session found, kept]
      · exact lock_drop_of_session found }

end SerialStore
end DocStore
