import DocStore.Backend
import DocStore.Proofs.Replay
import DocStore.Proofs.Sql.Exchange

/-!
# Runs on a backend

A client that always has a transaction open takes turns: it calls an operation, or it ends its
transaction and begins the next one.  Taken in memory, turns are answered as by the sessions of
the transactions (`Site.run_memory`).  On a server a call is a conversation, which is held
with a server that has tables.
-/

namespace DocStore

open Sql

/-- What a client does that always has a transaction open. -/
inductive Turn (engine : Engine) where
  /-- It calls an operation. -/
  | call (surroundings : Surroundings) (op : engine.Op)
  /-- It ends its transaction, which is kept or undone, and begins the next one. -/
  | finish (kept : Bool)

namespace Engine

variable (engine : Engine)

/-- The session after a turn. -/
def next (session : engine.Session) : Turn engine → engine.Session
  | .call surroundings op => perform session (surroundings, op)
  | .finish kept => engine.start (if kept then engine.commit session else engine.undo session)

/-- What a turn is answered; ends are answered with nothing. -/
def answer (session : engine.Session) : Turn engine → Except ClientError (Option engine.Answer)
  | .call surroundings op =>
    ((engine.run session surroundings op).result.map some).mapError .store
  | .finish _ => .ok none

/-- What turns are answered that are taken one after the other. -/
def answers (session : engine.Session) :
    List (Turn engine) → List (Except ClientError (Option engine.Answer))
  | [] => []
  | turn :: rest => engine.answer session turn :: answers (engine.next session turn) rest

/-- The session after turns that are taken one after the other. -/
def after (session : engine.Session) (turns : List (Turn engine)) : engine.Session :=
  turns.foldl engine.next session

end Engine

/-- A backend and the server that it may talk to. -/
structure Site (family : Family) where
  backend : Backend family
  server : Server

namespace Site

variable {family : Family} (dialect : Dialect) (client : String)

/-- Holds the conversation of a step with the server. -/
def hold {α : Type} (site : Site family) : Step family α → Except ClientError α × Site family
  | .error error => (.error error, site)
  | .ok (talk, backend) =>
    let (result, server) := site.server.hold dialect talk
    (result.mapError .store, ⟨backend, server⟩)

/-- Begins a transaction. -/
def begin (site : Site family) : Except ClientError Unit × Site family :=
  match (site.backend.begin client).holdWith (Server.answer dialect) site.server with
  | (.ok backend, server) => (.ok (), ⟨backend, server⟩)
  | (.error error, server) => (.error error, { site with server })

/-- Ends a transaction. -/
def finish (site : Site family) (kept : Bool) : Except ClientError Unit × Site family :=
  site.hold dialect (if kept then site.backend.commit client else site.backend.rollback client)

/-- Takes a turn. -/
def turn (site : Site family) :
    Turn family.engine → Except ClientError (Option family.engine.Answer) × Site family
  | .call surroundings op =>
    let (answer, site) := site.hold dialect (site.backend.run client surroundings op)
    (answer.map some, site)
  | .finish kept =>
    let (ended, site) := site.finish dialect client kept
    let (began, site) := site.begin dialect client
    ((ended.bind fun _ => began).map fun _ => none, site)

/-- Takes turns one after the other. -/
def play (site : Site family) : List (Turn family.engine) →
    List (Except ClientError (Option family.engine.Answer)) × Site family
  | [] => ([], site)
  | turn :: rest =>
    let (answer, next) := site.turn dialect client turn
    let (answers, last) := next.play rest
    (answer :: answers, last)

/-- Begins a transaction and takes turns. -/
def run (site : Site family) (turns : List (Turn family.engine)) :
    List (Except ClientError (Option family.engine.Answer)) × Site family :=
  let (began, site) := site.begin dialect client
  let (answers, last) := site.play dialect client turns
  (began.map (fun _ => none) :: answers, last)

variable {dialect client}

/-! ## Turns one after the other -/

section

variable {Stands : List (Turn family.engine) → family.engine.Session → Site family → Prop}
  (step : ∀ {turn rest session site}, Stands (turn :: rest) session site →
    ∃ after, site.turn dialect client turn = (family.engine.answer session turn, after) ∧
      Stands rest (family.engine.next session turn) after)
  {turns : List (Turn family.engine)} {session : family.engine.Session} {site : Site family}

include step

/-- If every turn of a site is answered as by the session that stands for it, and the next
session stands for the next site, turns one after the other are answered as by the sessions. -/
theorem play_of_turn (stands : Stands turns session site) :
    ∃ after, site.play dialect client turns = (family.engine.answers session turns, after) ∧
      Stands [] (family.engine.after session turns) after := by
  induction turns generalizing session site with
  | nil => exact ⟨site, rfl, stands⟩
  | cons turn rest ih =>
    obtain ⟨next, taken, between⟩ := step stands
    obtain ⟨last, played, after⟩ := ih between
    refine ⟨last, ?_, after⟩
    simp only [Site.play, taken, played, Engine.answers]

theorem run_of_turn {opened : Site family} (began : site.begin dialect client = (.ok (), opened))
    (stands : Stands turns session opened) :
    ∃ after, site.run dialect client turns =
        (.ok none :: family.engine.answers session turns, after) ∧
      Stands [] (family.engine.after session turns) after := by
  obtain ⟨after, played, last⟩ := play_of_turn step stands
  refine ⟨after, ?_, last⟩
  simp only [run, began, played]
  rfl

end

/-! ## In memory -/

section

variable {store ended : SerialStore family.engine} (server : Server)

theorem begin_memory (began : store.begin client = .ok ended) :
    begin dialect client (⟨.memory store, server⟩ : Site family) =
      (.ok (), ⟨.memory ended, server⟩) := by
  simp only [begin, Backend.begin, began]
  rfl

theorem finish_memory {kept : Bool}
    (ends : (if kept then store.commit client else store.rollback client) = .ok ended) :
    finish dialect client (⟨.memory store, server⟩ : Site family) kept =
      (.ok (), ⟨.memory ended, server⟩) := by
  cases kept with
  | true =>
    have committed : store.commit client = .ok ended := ends
    simp only [finish, if_true, Backend.commit, committed]
    rfl
  | false =>
    have undone : store.rollback client = .ok ended := ends
    simp only [finish, Bool.false_eq_true, if_false, Backend.rollback, undone]
    rfl

end

/-- A call in memory is answered as by the session, and the store goes on with what the session is
after it. -/
theorem call_memory {store : SerialStore family.engine} {session : family.engine.Session}
    (opened : store.session client = .ok session) (server : Server)
    (surroundings : Surroundings) (op : family.engine.Op) :
    Site.turn dialect client (⟨.memory store, server⟩ : Site family) (.call surroundings op) =
      (family.engine.answer session (.call surroundings op),
        ⟨.memory { store with
            lock := .held client (family.engine.next session (.call surroundings op)) },
          server⟩) := by
  simp only [Site.turn, Backend.run, Engine.answer, Engine.next, Engine.perform]
  cases ran : family.engine.run session surroundings op with
  | ok outcome =>
    rw [SerialStore.run_of_ok opened ran]
    rfl
  | error outcome =>
    rw [SerialStore.run_of_error opened ran]
    rfl

/-- A store in memory whose open transaction has a session. -/
def InMemory (client : String) (session : family.engine.Session) (site : Site family) : Prop :=
  ∃ store server, site = ⟨.memory store, server⟩ ∧ store.session client = .ok session

variable (dialect)

/-- A turn in memory goes on with the session. -/
theorem InMemory.turn {session : family.engine.Session} {site : Site family}
    (inMemory : InMemory client session site) (turn : Turn family.engine) :
    ∃ after, site.turn dialect client turn = (family.engine.answer session turn, after) ∧
      InMemory client (family.engine.next session turn) after := by
  obtain ⟨store, server, rfl, opened⟩ := inMemory
  cases turn with
  | call surroundings op =>
    exact ⟨_, call_memory opened server surroundings op, _, server, rfl,
      SerialStore.session_with_lock opened _⟩
  | finish kept =>
    obtain ⟨free, ends, locked⟩ : ∃ free : SerialStore family.engine,
        (if kept then store.commit client else store.rollback client) = .ok free ∧
          free.lock = .free (if kept then family.engine.commit session
            else family.engine.undo session) := by
      cases kept with
      | true => exact ⟨_, SerialStore.commit_of_session opened, rfl⟩
      | false => exact ⟨_, SerialStore.rollback_of_session opened, rfl⟩
    obtain ⟨again, began, found⟩ := SerialStore.begin_of_free locked client
    simp only [Site.turn, finish_memory server ends, begin_memory server began]
    exact ⟨_, rfl, again, server, rfl, found⟩

/-- A run in memory is answered as by the sessions, from the one of the stored content. -/
theorem run_memory (content : family.engine.Content) (server : Server)
    (turns : List (Turn family.engine)) :
    ∃ after,
      run dialect client (⟨.memory (SerialStore.start content), server⟩ : Site family) turns =
        (.ok none :: family.engine.answers (family.engine.start content) turns, after) ∧
      InMemory client (family.engine.after (family.engine.start content) turns) after := by
  obtain ⟨opened, began, found⟩ := SerialStore.begin_of_free
    (show (SerialStore.start content).lock = .free content from rfl) client
  exact @run_of_turn _ dialect client (fun _ => InMemory client)
    (fun inMemory => inMemory.turn dialect _) turns _ _ _ (begin_memory server began)
    ⟨opened, server, rfl, found⟩

/-! ## On a server -/

section

variable {dialect} {pool : Pool} {server : Server}

theorem begin_server (isOpen : pool.closed = false) :
    begin dialect client (⟨.server pool, server⟩ : Site family) =
      (.ok (), ⟨.server { pool with transactions := pool.transactions.insert client true },
        { server with saved := some server.tables }⟩) := by
  simp only [begin, Backend.begin, Pool.begin, isOpen]
  rfl

theorem finish_server (active : pool.transactions.find? client = some true) (kept : Bool) :
    finish dialect client (⟨.server pool, server⟩ : Site family) kept =
      (.ok (), ⟨.server (pool.finish client),
        ⟨if kept then server.tables else server.saved.getD server.tables, none⟩⟩) := by
  have checked : pool.check client = .ok () := by simp [Pool.check, active]
  cases kept with
  | true =>
    simp only [finish, if_true, Backend.commit, Pool.commit, checked]
    rfl
  | false =>
    simp only [finish, Bool.false_eq_true, if_false, Backend.rollback, Pool.rollback, checked]
    rfl

/-- The end of a transaction keeps the tables or brings the saved ones back, and the next
transaction begins with them. -/
theorem turn_finish_server (isOpen : pool.closed = false)
    (active : pool.transactions.find? client = some true) (kept : Bool) :
    let tables := if kept then server.tables else server.saved.getD server.tables
    Site.turn dialect client (⟨.server pool, server⟩ : Site family) (.finish kept) =
      (.ok none, ⟨.server
        { pool.finish client with
          transactions := (pool.finish client).transactions.insert client true },
        ⟨tables, some tables⟩⟩) := by
  have finished : (pool.finish client).closed = false := isOpen
  simp only [turn, finish_server active, begin_server finished]
  rfl

/-- A call on a server holds the conversation of the operation. -/
theorem call_server (active : pool.transactions.find? client = some true)
    {surroundings : Surroundings} {op : family.engine.Op}
    {result : Except StoreError family.engine.Answer} {after : Server}
    (held : server.hold dialect (family.talk pool.queryLimit surroundings.now
      (surroundings.ids pool.minted) op) = (result, after)) :
    Site.turn dialect client (⟨.server pool, server⟩ : Site family) (.call surroundings op) =
      ((result.map some).mapError .store,
        ⟨.server { pool with minted := pool.minted + (family.takesId op).toNat }, after⟩) := by
  have checked : pool.check client = .ok () := by simp [Pool.check, active]
  have step : Backend.run client surroundings op (.server pool : Backend family) =
      .ok (family.talk pool.queryLimit surroundings.now (surroundings.ids pool.minted) op,
        .server { pool with minted := pool.minted + (family.takesId op).toNat }) := by
    simp only [Backend.run, Pool.run, checked]
    rfl
  simp only [Site.turn, step, hold, held]
  cases result <;> rfl

end

end Site
end DocStore
