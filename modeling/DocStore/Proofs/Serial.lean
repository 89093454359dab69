import DocStore.Memory.Serial

/-!
# Runs of a serial store

Clients move a store with a lock in any order: they begin, work, commit, roll back and
give up.  A move that the store refuses leaves it as it is; an operation that fails in an open
transaction leaves the session that it ended with.  Beside the store, a history keeps notes on
the work that counts: on that of the committed transactions, in the order of the commits, and on
that of the open transaction.

`transition_step` says once what a move can do; `invariant_play` lifts what every
transition preserves to all runs.
-/

namespace DocStore

/-- What a client asks of a store with a lock. -/
inductive Move (engine : Engine) where
  /-- Begins a transaction. -/
  | begin (client : String)
  /-- Runs an operation. -/
  | run (client : String) (surroundings : Surroundings) (op : engine.Op)
  /-- Keeps the work of a transaction. -/
  | commit (client : String)
  /-- Undoes the work of a transaction. -/
  | rollback (client : String)
  /-- Gives a transaction up. -/
  | drop (client : String)

/-- Notes on the work of transactions. -/
structure History (α : Type) where
  /-- On the committed transactions, in the order of the commits. -/
  committed : List α
  /-- On the open transaction. -/
  pending : List α

namespace History

/-- The history before the first transaction. -/
def empty {α : Type} : History α := ⟨[], []⟩

/-- All notes, those on the open transaction last. -/
def all {α : Type} (history : History α) : List α := history.committed ++ history.pending

end History

namespace Lock

variable {engine : Engine}

/-- The client whose transaction is open. -/
def holder? : Lock engine → Option String
  | .free _ => none
  | .held client _ => some client

@[simp] theorem holder?_free (content : engine.Content) :
    (Lock.free content : Lock engine).holder? = none := rfl

@[simp] theorem holder?_held (client : String) (session : engine.Session) :
    (Lock.held client session : Lock engine).holder? = some client := rfl

end Lock

namespace SerialStore

variable {engine : Engine} {α : Type}

/-- The store after a call, unless the call is refused. -/
def kept (store : SerialStore engine) :
    Except ClientError (SerialStore engine) → SerialStore engine
  | .ok after => after
  | .error _ => store

/-- The store after a move. -/
def step (store : SerialStore engine) : Move engine → SerialStore engine
  | .begin client => store.kept (store.begin client)
  | .run client surroundings op => (store.run client surroundings op).state
  | .commit client => store.kept (store.commit client)
  | .rollback client => store.kept (store.rollback client)
  | .drop client => (store.drop client).2

/-- The store after a list of moves. -/
def play (store : SerialStore engine) (moves : List (Move engine)) : SerialStore engine :=
  moves.foldl step store

/-- The history after a move: `note` says what there is to note on an operation, which may succeed
or fail. -/
def noted (note : engine.Session → Surroundings → engine.Op → List α)
    (store : SerialStore engine) (history : History α) : Move engine → History α
  | .begin _ =>
    match store.lock with
    | .free _ => { history with pending := [] }
    | .held _ _ => history
  | .run client surroundings op =>
    match store.session client with
    | .ok session => { history with pending := history.pending ++ note session surroundings op }
    | .error _ => history
  | .commit client =>
    match store.session client with
    | .ok _ => ⟨history.all, []⟩
    | .error _ => history
  | .rollback client | .drop client =>
    match store.session client with
    | .ok _ => { history with pending := [] }
    | .error _ => history

/-- The history after a list of moves. -/
def playNoted (note : engine.Session → Surroundings → engine.Op → List α)
    (store : SerialStore engine) (history : History α) : List (Move engine) → History α
  | [] => history
  | move :: rest => playNoted note (store.step move) (store.noted note history move) rest

theorem play_append (store : SerialStore engine) (earlier later : List (Move engine)) :
    store.play (earlier ++ later) = (store.play earlier).play later :=
  List.foldl_append

theorem play_concat (store : SerialStore engine) (moves : List (Move engine))
    (move : Move engine) : store.play (moves ++ [move]) = (store.play moves).step move :=
  store.play_append moves [move]

/-- The last move of a list adds its notes to those on the moves before it. -/
theorem playNoted_concat (note : engine.Session → Surroundings → engine.Op → List α)
    (store : SerialStore engine) (history : History α) (moves : List (Move engine))
    (move : Move engine) : store.playNoted note history (moves ++ [move]) =
      (store.play moves).noted note (store.playNoted note history moves) move := by
  induction moves generalizing store history with
  | nil => rfl
  | cons first rest ih => exact ih (store.step first) (store.noted note history first)

/-! ## What a move can do -/

/-- How a move changes the lock and the history. -/
inductive Transition (note : engine.Session → Surroundings → engine.Op → List α) :
    Move engine → Lock engine → History α → Lock engine → History α → Prop
  /-- The move is refused, or finds a finished transaction. -/
  | idle (move lock history) : Transition note move lock history lock history
  /-- A transaction begins. -/
  | begun (client content history) :
    Transition note (.begin client) (.free content) history
      (.held client (engine.start content)) { history with pending := [] }
  /-- An operation of the open transaction succeeds or fails. -/
  | worked (client surroundings op session history) :
    Transition note (.run client surroundings op) (.held client session) history
      (.held client (engine.run session surroundings op).state)
      { history with pending := history.pending ++ note session surroundings op }
  /-- The open transaction is committed. -/
  | committed (client session history) :
    Transition note (.commit client) (.held client session) history
      (.free (engine.commit session)) ⟨history.all, []⟩
  /-- The open transaction is rolled back or given up. -/
  | undone (move client session history) (ends : move = .rollback client ∨ move = .drop client) :
    Transition note move (.held client session) history
      (.free (engine.undo session)) { history with pending := [] }

theorem lock_of_session {store : SerialStore engine} {client : String}
    {session : engine.Session} (found : store.session client = .ok session) :
    store.lock = .held client session := by
  unfold SerialStore.session at found
  split at found
  · split at found
    · rename_i holder held locked
      split at found
      · rename_i same
        cases found
        rw [locked, same]
      · cases found
    · cases found
  · cases found

theorem contains_of_session {store : SerialStore engine} {client : String}
    {session : engine.Session} (found : store.session client = .ok session) :
    store.clients.contains client = true := by
  unfold SerialStore.session at found
  split at found
  · assumption
  · cases found

theorem session_of_lock {store : SerialStore engine} {client : String} {session : engine.Session}
    (locked : store.lock = .held client session) (member : store.clients.contains client = true) :
    store.session client = .ok session := by
  simp [SerialStore.session, locked, member]

/-- A store that is free lets every client begin. -/
theorem begin_of_free {store : SerialStore engine} {content : engine.Content}
    (free : store.lock = .free content) (client : String) :
    ∃ opened, store.begin client = .ok opened ∧
      opened.session client = .ok (engine.start content) := by
  refine ⟨⟨.held client (engine.start content), store.clients.add client⟩, ?_, ?_⟩
  · simp [SerialStore.begin, free]
  · refine session_of_lock rfl ?_
    simp [NameSet.add, Dict.contains, Dict.find?_insert]

/-- The client that holds the lock goes on with the session that is written back. -/
theorem session_with_lock {store : SerialStore engine} {client : String}
    {session : engine.Session} (found : store.session client = .ok session)
    (later : engine.Session) :
    SerialStore.session { store with lock := .held client later } client = .ok later := by
  have member : store.clients.contains client = true := contains_of_session found
  exact session_of_lock rfl member

section

variable {store : SerialStore engine} {client : String} {session after : engine.Session}
  {surroundings : Surroundings} {op : engine.Op} {answer : engine.Answer} {error : StoreError}
  (found : store.session client = .ok session)

include found

theorem run_of_ok (ran : engine.run session surroundings op = .ok (answer, after)) :
    store.run client surroundings op =
      .ok (answer, { store with lock := .held client after }) := by
  simp only [SerialStore.run, found, ran]

theorem run_of_error (ran : engine.run session surroundings op = .error (error, after)) :
    store.run client surroundings op =
      .error (.store error, { store with lock := .held client after }) := by
  simp only [SerialStore.run, found, ran]

/-- An operation of the open transaction is answered as by its session. -/
theorem result_run (surroundings : Surroundings) (op : engine.Op) :
    (store.run client surroundings op).result =
      (engine.run session surroundings op).result.mapError .store := by
  cases ran : engine.run session surroundings op with
  | ok outcome => rw [run_of_ok found ran]; rfl
  | error outcome => rw [run_of_error found ran]; rfl

/-- The open transaction goes on with the session that the operation leaves. -/
theorem step_run (surroundings : Surroundings) (op : engine.Op) :
    store.step (.run client surroundings op) =
      { store with lock := .held client (engine.run session surroundings op).state } := by
  rw [step]
  cases ran : engine.run session surroundings op with
  | ok outcome => rw [run_of_ok found ran]; rfl
  | error outcome => rw [run_of_error found ran]; rfl

theorem session_step_run (surroundings : Surroundings) (op : engine.Op) :
    (store.step (.run client surroundings op)).session client =
      .ok (engine.run session surroundings op).state := by
  rw [step_run found]
  exact session_with_lock found _

end

/-- A client without an open transaction runs nothing. -/
theorem run_of_no_session {store : SerialStore engine} {client : String} {error : ClientError}
    (missing : store.session client = .error error) (surroundings : Surroundings)
    (op : engine.Op) : store.run client surroundings op = .error (error, store) := by
  simp only [SerialStore.run, missing]

/-- A run that succeeds is one of an open session. -/
theorem session_of_run_ok {store after : SerialStore engine} {client : String}
    {surroundings : Surroundings} {op : engine.Op} {answer : engine.Answer}
    (ran : store.run client surroundings op = .ok (answer, after)) :
    ∃ session later, store.session client = .ok session ∧
      engine.run session surroundings op = .ok (answer, later) ∧
      after = { store with lock := .held client later } := by
  cases found : store.session client with
  | error error =>
    rw [run_of_no_session found] at ran
    cases ran
  | ok session =>
    cases worked : engine.run session surroundings op with
    | error outcome =>
      rw [run_of_error found worked] at ran
      cases ran
    | ok outcome =>
      rw [run_of_ok found worked] at ran
      cases ran
      exact ⟨session, outcome.2, rfl, worked, rfl⟩

theorem step_of_run {store after : SerialStore engine} {client : String}
    {surroundings : Surroundings} {op : engine.Op} {answer : engine.Answer}
    (ran : store.run client surroundings op = .ok (answer, after)) :
    store.step (.run client surroundings op) = after := by
  rw [step, ran]
  rfl

theorem step_of_run_error {store after : SerialStore engine} {client : String}
    {surroundings : Surroundings} {op : engine.Op} {error : ClientError}
    (failed : store.run client surroundings op = .error (error, after)) :
    store.step (.run client surroundings op) = after := by
  rw [step, failed]
  rfl

/-- A session that is held stays as it is where it is written back. -/
theorem with_lock_of_session {store : SerialStore engine} {client : String}
    {session : engine.Session} (found : store.session client = .ok session) :
    { store with lock := .held client session } = store := by
  rw [← lock_of_session found]

theorem commit_of_session {store : SerialStore engine} {client : String}
    {session : engine.Session} (found : store.session client = .ok session) :
    store.commit client = .ok { store with lock := .free (engine.commit session) } := by
  simp [SerialStore.commit, found, bind, Except.bind, pure, Except.pure]

theorem rollback_of_session {store : SerialStore engine} {client : String}
    {session : engine.Session} (found : store.session client = .ok session) :
    store.rollback client = .ok { store with lock := .free (engine.undo session) } := by
  simp [SerialStore.rollback, found, bind, Except.bind, pure, Except.pure]

/-- A client without an open transaction leaves the lock as it is when it gives up. -/
theorem lock_drop_of_error {store : SerialStore engine} {client : String}
    {error : ClientError} (missing : store.session client = .error error) :
    (store.drop client).2.lock = store.lock := by
  have refused : store.rollback client = .error error := by
    simp [SerialStore.rollback, missing, bind, Except.bind]
  unfold SerialStore.drop
  split
  · rw [refused]
  · rfl

theorem lock_drop_of_session {store : SerialStore engine} {client : String}
    {session : engine.Session} (found : store.session client = .ok session) :
    (store.drop client).2.lock = .free (engine.undo session) := by
  unfold SerialStore.drop
  rw [if_pos (contains_of_session found), rollback_of_session found]

/-- Every move is one of the transitions. -/
theorem transition_step (note : engine.Session → Surroundings → engine.Op → List α)
    (store : SerialStore engine) (history : History α) (move : Move engine) :
    Transition note move store.lock history
      (store.step move).lock (store.noted note history move) := by
  cases move with
  | begin client =>
    simp only [step, noted, SerialStore.begin]
    cases locked : store.lock with
    | free content => exact .begun client content history
    | held holder session =>
      simp only [kept]
      rw [locked]
      exact .idle _ _ _
  | run client surroundings op =>
    cases found : store.session client with
    | error error =>
      simp only [step, noted, run_of_no_session found, found]
      exact .idle _ _ _
    | ok session =>
      rw [step_run found, lock_of_session found]
      simp only [noted, found]
      exact .worked client surroundings op session history
  | commit client =>
    simp only [step, noted, SerialStore.commit]
    cases found : store.session client with
    | error error => exact .idle _ _ _
    | ok session =>
      rw [lock_of_session found]
      exact .committed client session history
  | rollback client =>
    simp only [step, noted, SerialStore.rollback]
    cases found : store.session client with
    | error error => exact .idle _ _ _
    | ok session =>
      rw [lock_of_session found]
      exact .undone _ client session history (.inl rfl)
  | drop client =>
    simp only [step, noted]
    cases found : store.session client with
    | error error =>
      rw [lock_drop_of_error found]
      exact .idle _ _ _
    | ok session =>
      rw [lock_drop_of_session found, lock_of_session found]
      exact .undone _ client session history (.inr rfl)

/-- What every transition of a list of moves preserves holds after the moves. -/
theorem invariant_play {note : engine.Session → Surroundings → engine.Op → List α}
    (Invariant : Lock engine → History α → Prop)
    {store : SerialStore engine} {history : History α} {moves : List (Move engine)}
    (initial : Invariant store.lock history)
    (preserved : ∀ move ∈ moves, ∀ {lock past next future},
      Transition note move lock past next future → Invariant lock past → Invariant next future) :
    Invariant (store.play moves).lock (store.playNoted note history moves) := by
  induction moves generalizing store history with
  | nil => exact initial
  | cons move rest ih =>
    refine ih ?_ fun later member => preserved later (List.mem_cons_of_mem _ member)
    exact preserved move List.mem_cons_self (transition_step note store history move) initial

end SerialStore
end DocStore
