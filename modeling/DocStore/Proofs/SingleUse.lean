import DocStore.Backend
import DocStore.Proofs.Dict
import DocStore.Proofs.Errors
import DocStore.Proofs.Replay
import DocStore.Proofs.Serial
import DocStore.Proofs.Sql.Exchange

/-!
# Transactions that are used once

Clients do with a backend what they like, in any order, and its server replies what it likes.
What becomes of a transaction is settled by the check that every request to it meets first:
`check_step` says what any action does to this check, and `check_play` what a list of actions
does.  So a transaction is finished exactly from the first commit or rollback on, even where
the server refuses that, and a request to a finished transaction neither reaches the store nor
sends anything (`World.finished_iff_ended`).
-/

namespace DocStore

open Sql

/-- What a client asks of its transaction. -/
inductive Request (engine : Engine) where
  /-- To run an operation. -/
  | run (surroundings : Surroundings) (op : engine.Op)
  /-- To keep what it did. -/
  | commit
  /-- To undo what it did. -/
  | rollback

/-- What happens to a backend. -/
inductive Action (engine : Engine) where
  /-- A client begins a transaction. -/
  | begin (client : String)
  /-- A client asks something of its transaction. -/
  | ask (client : String) (request : Request engine)
  /-- A client gives its transaction up. -/
  | drop (client : String)
  /-- The store is asked whether it answers. -/
  | ping
  /-- The store is closed. -/
  | close

/-- Whether a request is to end the transaction. -/
def Request.ends {engine : Engine} : Request engine → Bool
  | .run _ _ => false
  | .commit | .rollback => true

namespace Action

variable {engine : Engine} (client : String)

/-- Whether the action is to end the client's transaction. -/
def ends : Action engine → Bool
  | .ask other request => request.ends && other == client
  | _ => false

/-- Whether the action gives the client another transaction or takes away the one it has. -/
def replaces : Action engine → Bool
  | .begin other | .drop other => other == client
  | _ => false

end Action

/-! ## The check -/

namespace Backend

variable {family : Family} {client : String}

/-- Whether a client's transaction is open. -/
def check (client : String) : Backend family → Except ClientError Unit
  | memory store => (store.session client).map fun _ => ()
  | server pool => pool.check client

/-- In memory, the transaction of the client that holds the lock is open. -/
theorem check_memory (store : SerialStore family.engine) (client : String) :
    (memory store : Backend family).check client =
      if store.clients.contains client then
        if store.lock.holder? = some client then .ok () else .error (.store .finished)
      else .error .noTransaction := by
  obtain ⟨lock, clients⟩ := store
  simp only [check, SerialStore.session]
  split
  · cases lock with
    | free => rfl
    | held holder session =>
      simp only [Lock.holder?_held, Option.some.injEq]
      split <;> rfl
  · rfl

theorem session_of_check {store : SerialStore family.engine}
    (isOpen : (memory store : Backend family).check client = .ok ()) :
    ∃ session, store.session client = .ok session := by
  cases found : store.session client with
  | ok session => exact ⟨session, rfl⟩
  | error error => simp [check, found, Except.map] at isOpen

theorem session_of_check_error {store : SerialStore family.engine} {error : ClientError}
    (failed : (memory store : Backend family).check client = .error error) :
    store.session client = .error error := by
  cases found : store.session client with
  | ok session => simp [check, found, Except.map] at failed
  | error other => simpa [check, found, Except.map] using failed

end Backend

theorem Sql.Pool.transactions_begin {σ : Type} {answer : σ → Message → Reply × σ} {state : σ}
    {pool opened : Pool} {client : String}
    (began : ((pool.begin client).holdWith answer state).1 = .ok opened) :
    opened.transactions = pool.transactions.insert client true := by
  unfold Pool.begin at began
  split at began
  · cases began
  · rw [Conversation.holdWith_bind] at began
    split at began
    · cases began
      rfl
    · cases began

/-- What the check of a transaction says when the transaction was to be ended. -/
def ended : Except ClientError Unit → Except ClientError Unit
  | .ok _ => .error (.store .finished)
  | .error error => .error error

@[simp]
theorem ended_ended (checked : Except ClientError Unit) :
    ended (ended checked) = ended checked := by
  cases checked <;> rfl

/-- When the lock is released, the transaction of the client that held it is finished. -/
theorem Backend.check_release {family : Family} {store : SerialStore family.engine}
    {other : String} (locked : store.lock.holder? = some other) (content : family.engine.Content)
    (client : String) :
    (memory { store with lock := .free content } : Backend family).check client =
      if other == client then ended ((memory store).check client)
      else (memory store).check client := by
  by_cases same : other = client <;>
    by_cases member : store.clients.contains client = true <;>
      simp [check_memory, locked, same, member, ended]

/-- While a client holds the lock, it does not matter with which session. -/
theorem Backend.check_held {family : Family} {store : SerialStore family.engine} {other : String}
    (locked : store.lock.holder? = some other) (session : family.engine.Session)
    (client : String) :
    (memory { store with lock := .held other session } : Backend family).check client =
      (memory store).check client := by
  simp [check_memory, locked]

theorem Sql.Pool.check_finish {pool : Pool} {other : String} (active : pool.check other = .ok ())
    (client : String) :
    (pool.finish other).check client =
      if other == client then ended (pool.check client) else pool.check client := by
  by_cases same : client = other
  · subst same
    simp only [active, beq_self_eq_true, if_true, ended]
    simp only [Pool.check, Pool.finish, Dict.find?_insert, if_true]
  · have different : other ≠ client := fun equal => same equal.symm
    simp [Pool.check, Pool.finish, Dict.find?_insert, same, different]

/-- A family whose operations, once the transaction is found open, fail for reasons of their
own. -/
structure Family.Sincere (family : Family) : Prop where
  inMemory : ∀ {session surroundings op error after},
    family.engine.run session surroundings op = .error (error, after) →
      error.ofOperation = true
  onServer : ∀ limit now fresh op, (family.talk limit now fresh op).OfOperation

theorem sincere_of_known {family : Family}
    (known : family = documentFamily ∨ family = grantFamily) : family.Sincere := by
  obtain rfl | rfl := known
  · exact ⟨DocumentSession.ofOperation_of_run, ofOperation_documentTalk⟩
  · exact ⟨fun failed => (by cases failed), fun limit _ _ op => ofOperation_grantTalk limit op⟩

/-! ## The world -/

/-- A backend, and everything that was sent to its server. -/
structure World (family : Family) where
  backend : Backend family
  sent : List Message

namespace World

variable {family : Family} (server : List Message → Reply) {client : String}

/-- A server replies to a message as it likes, with regard to everything that was sent. -/
def reply (sent : List Message) (message : Message) : Reply × List Message :=
  (server (sent ++ [message]), sent ++ [message])

/-- Holds the conversation of a step. -/
def hold {α : Type} (world : World family) : Step family α → Except ClientError α × World family
  | .error error => (.error error, world)
  | .ok (talk, backend) =>
    let (result, sent) := talk.holdWith (reply server) world.sent
    (result.mapError .store, ⟨backend, sent⟩)

/-- A client begins a transaction. -/
def begin (client : String) (world : World family) : Except ClientError Unit × World family :=
  match (world.backend.begin client).holdWith (reply server) world.sent with
  | (.ok backend, sent) => (.ok (), ⟨backend, sent⟩)
  | (.error error, sent) => (.error error, { world with sent })

/-- A client asks something of its transaction; ends are answered with nothing. -/
def ask (client : String) (world : World family) : Request family.engine →
    Except ClientError (Option family.engine.Answer) × World family
  | .run surroundings op =>
    let (answer, world) := world.hold server (world.backend.run client surroundings op)
    (answer.map some, world)
  | .commit =>
    let (answer, world) := world.hold server (world.backend.commit client)
    (answer.map fun _ => none, world)
  | .rollback =>
    let (answer, world) := world.hold server (world.backend.rollback client)
    (answer.map fun _ => none, world)

/-- The world after an action. -/
def step (world : World family) : Action family.engine → World family
  | .begin client => (world.begin server client).2
  | .ask client request => (world.ask server client request).2
  | .drop client => { world with backend := (world.backend.drop client).2 }
  | .ping => (world.hold server (.ok (world.backend.ping, world.backend))).2
  | .close => { world with backend := world.backend.close }

/-- The world after a list of actions. -/
def play (world : World family) (actions : List (Action family.engine)) : World family :=
  actions.foldl (step server) world

variable {server} {world : World family}

/-- A request that fails the check is refused at once: the store is as before, and nothing is
sent. -/
theorem ask_of_check_error {error : ClientError}
    (failed : world.backend.check client = .error error) (request : Request family.engine) :
    world.ask server client request = (.error error, world) := by
  obtain ⟨backend, sent⟩ := world
  cases backend with
  | memory store =>
    have missing : store.session client = .error error := Backend.session_of_check_error failed
    cases request with
    | run surroundings op =>
      have refused := SerialStore.run_of_no_session missing surroundings op
      cases error <;> simp only [ask, Backend.run, refused] <;> rfl
    | commit | rollback =>
      simp [ask, Backend.commit, Backend.rollback, SerialStore.commit, SerialStore.rollback,
        missing, bind, Except.bind, hold, Except.map]
  | server pool =>
    have missing : pool.check client = .error error := failed
    cases request <;>
      simp [ask, Backend.run, Backend.commit, Backend.rollback, Pool.run, Pool.commit,
        Pool.rollback, missing, bind, Except.bind, Backend.asked, hold, Except.map]

/-! ## What becomes of the check -/

theorem begin_server (pool : Pool) (sent : List Message) :
    begin server client (⟨.server pool, sent⟩ : World family) =
      match (pool.begin client).holdWith (reply server) sent with
      | (.ok opened, sent) => (.ok (), ⟨.server opened, sent⟩)
      | (.error error, sent) => (.error (.store error), ⟨.server pool, sent⟩) := by
  simp only [begin, Backend.begin, Conversation.holdWith_bind, Conversation.holdWith_attempt]
  cases (pool.begin client).holdWith (reply server) sent with
  | mk outcome sent => cases outcome <;> rfl

/-- To begin a transaction either changes nothing or opens one for the client, and nobody
else's check notices. -/
theorem begin_cases (server : List Message → Reply) (client : String) (world : World family) :
    (∃ error sent, world.begin server client = (.error error, { world with sent })) ∨
      ∃ opened, world.begin server client = (.ok (), opened) ∧
        ∀ other, opened.backend.check other =
          if other = client then .ok () else world.backend.check other := by
  obtain ⟨backend, sent⟩ := world
  cases backend with
  | memory store =>
    obtain ⟨lock, clients⟩ := store
    cases lock with
    | held holder session => exact .inl ⟨.blocked, sent, rfl⟩
    | free content =>
      refine .inr ⟨_, rfl, fun other => ?_⟩
      by_cases same : other = client
      · subst same
        simp [Backend.check_memory, NameSet.contains_add]
      · have different : client ≠ other := fun equal => same equal.symm
        simp [Backend.check_memory, NameSet.contains_add, same, different]
  | server pool =>
    rw [begin_server]
    cases held : (pool.begin client).holdWith (reply server) sent with
    | mk outcome sent' =>
      cases outcome with
      | error error => exact .inl ⟨_, sent', rfl⟩
      | ok opened =>
        have found : opened.transactions = pool.transactions.insert client true :=
          Pool.transactions_begin (congrArg Prod.fst held)
        refine .inr ⟨_, rfl, fun other => ?_⟩
        by_cases same : other = client <;>
          simp [Backend.check, Pool.check, found, Dict.find?_insert, same]

/-- A client that gives its transaction up takes no other one away. -/
theorem check_drop {other : String} (different : client ≠ other) (backend : Backend family) :
    (backend.drop other).2.check client = backend.check client := by
  cases backend with
  | memory store =>
    have kept : (store.drop other).2.clients.contains client = store.clients.contains client :=
      SerialStore.contains_clients_drop store different
    simp only [Backend.drop, Backend.check_memory, kept]
    cases found : store.session other with
    | error error => rw [SerialStore.lock_drop_of_error found]
    | ok session =>
      rw [SerialStore.lock_drop_of_session found, SerialStore.lock_of_session found]
      simp [different.symm]
  | server pool =>
    simp only [Backend.drop, Backend.check, Pool.drop, Pool.check, Dict.find?_erase,
      if_neg different]

/-- A request to end an open transaction ends it, whatever the server replies, and no other
request does. -/
theorem check_ask (other : String) (request : Request family.engine) :
    (world.ask server other request).2.backend.check client =
      if request.ends && other == client then ended (world.backend.check client)
      else world.backend.check client := by
  cases checked : world.backend.check other with
  | error error =>
    -- nothing changes, and a check that fails already fails the same way once it is `ended`
    rw [ask_of_check_error checked]
    split
    · rename_i ends
      obtain ⟨-, rfl⟩ : request.ends = true ∧ other = client := by simpa using ends
      rw [checked]
      rfl
    · rfl
  | ok =>
    obtain ⟨backend, sent⟩ := world
    cases backend with
    | memory store =>
      obtain ⟨session, found⟩ := Backend.session_of_check checked
      have locked : store.lock.holder? = some other := by
        rw [SerialStore.lock_of_session found]
        rfl
      cases request with
      | run surroundings op =>
        cases ran : family.engine.run session surroundings op with
        | error outcome =>
          simp only [ask, Backend.run, SerialStore.run_of_error found ran]
          exact Backend.check_held locked outcome.2 client
        | ok outcome =>
          simp only [ask, Backend.run, SerialStore.run_of_ok found ran]
          exact Backend.check_held locked outcome.2 client
      | commit =>
        simp only [ask, Backend.commit, SerialStore.commit_of_session found]
        exact Backend.check_release locked _ client
      | rollback =>
        simp only [ask, Backend.rollback, SerialStore.rollback_of_session found]
        exact Backend.check_release locked _ client
    | server pool =>
      have active : pool.check other = .ok () := checked
      cases request with
      | run surroundings op =>
        simp only [ask, Backend.run, Pool.run, active]
        rfl
      | commit =>
        simp only [ask, Backend.commit, Pool.commit, active]
        exact Pool.check_finish active client
      | rollback =>
        simp only [ask, Backend.rollback, Pool.rollback, active]
        exact Pool.check_finish active client

theorem check_of_begin {opened : World family}
    (began : world.begin server client = (.ok (), opened)) :
    opened.backend.check client = .ok () := by
  obtain ⟨error, sent, failed⟩ | ⟨same, done, check⟩ := begin_cases server client world
  · rw [failed] at began
    cases began
  · rw [done] at began
    cases began
    rw [check client, if_pos rfl]

theorem check_begin {other : String} (different : client ≠ other) :
    (world.begin server other).2.backend.check client = world.backend.check client := by
  obtain ⟨error, sent, failed⟩ | ⟨opened, began, check⟩ := begin_cases server other world
  · rw [failed]
  · rw [began, check client, if_neg different]

/-- What an action does to the check of a transaction that it does not replace: an end finishes
it, and nothing else touches it. -/
theorem check_step {action : Action family.engine} (own : action.replaces client = false) :
    (world.step server action).backend.check client =
      if action.ends client then ended (world.backend.check client)
      else world.backend.check client := by
  cases action with
  | begin other =>
    have different : other ≠ client := by simpa [Action.replaces] using own
    exact check_begin different.symm
  | ask other request => exact check_ask other request
  | drop other =>
    have different : other ≠ client := by simpa [Action.replaces] using own
    exact check_drop different.symm world.backend
  | ping => rfl
  | close => obtain ⟨_ | _, _⟩ := world <;> rfl

/-- What actions do to the check of a transaction that none of them replaces. -/
theorem check_play {actions : List (Action family.engine)}
    (own : ∀ action ∈ actions, action.replaces client = false) :
    (world.play server actions).backend.check client =
      if actions.any (·.ends client) then ended (world.backend.check client)
      else world.backend.check client := by
  induction actions generalizing world with
  | nil => rfl
  | cons action rest ih =>
    obtain ⟨first, later⟩ := List.forall_mem_cons.1 own
    rw [play, List.foldl_cons, ← play, ih later, check_step first, List.any_cons]
    cases action.ends client <;> cases rest.any (·.ends client) <;> simp

/-! ## Requests to open transactions -/

/-- A conversation that does not fail with an error is not answered with it. -/
theorem hold_ne_error {α β : Type} {allowed : StoreError → Prop} {talk : Talk α}
    (only : talk.FailsOnly allowed) {error : StoreError} (excluded : ¬ allowed error)
    (backend : Backend family) (shown : α → β) :
    (world.hold server (.ok (talk, backend))).1.map shown ≠ .error (.store error) := by
  have answer : (world.hold server (.ok (talk, backend))).1 =
      (talk.holdWith (reply server) world.sent).1.mapError .store := rfl
  rw [answer]
  intro failed
  cases held : (talk.holdWith (reply server) world.sent).1 with
  | ok value =>
    rw [held] at failed
    cases failed
  | error other =>
    rw [held] at failed
    cases failed
    exact excluded (only.holdWith held)

/-- The end of a transaction on a server fails for a reason of its own. -/
theorem failsOnly_boundary (task : String) (message : Message) :
    (do let _ ← Conversation.send (Pool.boundaryError task) message : Talk Unit).FailsOnly
      (· ≠ .finished) :=
  (Conversation.failsOnly_send (fun _ failed => nomatch failed) message).bind fun _ =>
    Conversation.failsOnly_pure ()

/-- A request to an open transaction is not answered as if the transaction were finished. -/
theorem ask_ne_finished (sincere : family.Sincere) (isOpen : world.backend.check client = .ok ())
    (request : Request family.engine) :
    (world.ask server client request).1 ≠ .error (.store .finished) := by
  obtain ⟨backend, sent⟩ := world
  cases backend with
  | memory store =>
    obtain ⟨session, found⟩ := Backend.session_of_check isOpen
    cases request with
    | run surroundings op =>
      simp only [ask, Backend.run]
      cases ran : family.engine.run session surroundings op with
      | ok outcome =>
        rw [SerialStore.run_of_ok found ran]
        exact fun failed => nomatch failed
      | error outcome =>
        obtain ⟨error, after⟩ := outcome
        rw [SerialStore.run_of_error found ran]
        rintro ⟨⟩
        exact absurd (sincere.inMemory ran) (by decide)
    | commit =>
      simp only [ask, Backend.commit, SerialStore.commit_of_session found]
      exact fun failed => nomatch failed
    | rollback =>
      simp only [ask, Backend.rollback, SerialStore.rollback_of_session found]
      exact fun failed => nomatch failed
  | server pool =>
    have active : pool.check client = .ok () := isOpen
    cases request with
    | run surroundings op =>
      simp only [ask, Backend.run, Pool.run, active]
      exact hold_ne_error (sincere.onServer _ _ _ op) (by decide) _ some
    | commit =>
      simp only [ask, Backend.commit, Pool.commit, active]
      exact hold_ne_error (failsOnly_boundary _ _) (fun allowed => allowed rfl) _ _
    | rollback =>
      simp only [ask, Backend.rollback, Pool.rollback, active]
      exact hold_ne_error (failsOnly_boundary _ _) (fun allowed => allowed rfl) _ _

/-- Once begun, a transaction is finished from the first commit or rollback on, whatever the
server replied to that, and not before: as long as the client neither begins another
transaction nor gives this one up, a request is answered that the transaction is finished
exactly if it was to be ended before.  Then the request leaves the store as it is, hands out no
identifier and sends nothing. -/
theorem finished_iff_ended (known : family = documentFamily ∨ family = grantFamily)
    {opened : World family} (began : world.begin server client = (.ok (), opened))
    {actions : List (Action family.engine)}
    (own : ∀ action ∈ actions, action.replaces client = false)
    (request : Request family.engine) :
    let later := opened.play server actions
    ((later.ask server client request).1 = .error (.store .finished) ↔
        ∃ action ∈ actions, action.ends client = true) ∧
      ((∃ action ∈ actions, action.ends client = true) →
        (later.ask server client request).2 = later) := by
  intro later
  have check : later.backend.check client =
      if actions.any (·.ends client) then .error (.store .finished) else .ok () := by
    rw [check_play own, check_of_begin began]
    rfl
  by_cases endedBefore : ∃ action ∈ actions, action.ends client = true
  · rw [List.any_eq_true.2 endedBefore] at check
    rw [ask_of_check_error check]
    exact ⟨iff_of_true rfl endedBefore, fun _ => rfl⟩
  · have noEnd : actions.any (·.ends client) = false := by
      rw [← Bool.not_eq_true, List.any_eq_true]
      exact endedBefore
    rw [noEnd] at check
    have stillOpen : (later.ask server client request).1 ≠ .error (.store .finished) :=
      ask_ne_finished (sincere_of_known known) check request
    exact ⟨iff_of_false stillOpen endedBefore, fun ended => absurd ended endedBefore⟩

/-- The server refuses a commit, and another client takes its turn before the first one asks
for a document under the path of a collection. -/
theorem finished_iff_ended_refused :
    let server (sent : List Message) : Reply :=
      match sent.getLast? with
      | some .commit => .refused "gone"
      | _ => .done [] 0
    let world : World documentFamily := ⟨.server (Pool.start (.plain "")), []⟩
    let opened := (world.begin server "first").2
    let called (op : DocumentOp) : Request documentFamily.engine := .run ⟨⟨0⟩, fun _ => "id"⟩ op
    let actions : List (Action documentFamily.engine) :=
      [.ask "first" .commit, .begin "second",
        .ask "second" (called (.create ⟨"/buckets/*"⟩ default)), .ask "second" .rollback]
    let later := opened.play server actions
    (opened.ask server "first" .commit).1 = .error (.store (.transaction
        "Failed to commit transaction: error returned from database: gone")) ∧
      world.begin server "first" = (.ok (), opened) ∧
      (∀ action ∈ actions, action.replaces "first" = false) ∧
      (later.ask server "first" (called (.get ⟨"/buckets/*"⟩))).1 =
        .error (.store .finished) ∧
      (later.ask server "first" (called (.get ⟨"/buckets/*"⟩))).2 = later := by
  intro server world opened called actions later
  have began : world.begin server "first" = (.ok (), opened) := rfl
  have own : ∀ action ∈ actions, action.replaces "first" = false := by decide
  have endedBefore : ∃ action ∈ actions, action.ends "first" = true := ⟨_, List.mem_cons_self, rfl⟩
  have settled := finished_iff_ended (.inl rfl) began own (called (.get ⟨"/buckets/*"⟩))
  exact ⟨rfl, began, own, settled.1.2 endedBefore, settled.2 endedBefore⟩

end World
end DocStore
