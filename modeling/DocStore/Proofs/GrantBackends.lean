import DocStore.Proofs.Backends
import DocStore.Proofs.Sql.GrantAgreement

/-!
# Grants on both backends

A client that takes turns is answered alike by a store of grants in memory and by one on a
server, and in the end the tables of the server show the links and the gifts of the store in
memory (`grant_backends_agree`).  As for documents, both runs are compared with the sessions of
the transactions in memory: at every turn the tables show what the session holds, and the tables
that the server saved show what a rollback of the session leaves (`Site.GrantsOnServer`).  The
answers are the same because both come from the links and the gifts, which leave one answer.
-/

namespace DocStore

open Sql

/-- The paths on which a turn gives permissions. -/
def Turn.givenOn : Turn grantEngine → List Path
  | .call _ op => GrantOp.givenOn op
  | .finish _ => []

/-! ## Tables and grants -/

/-- Tables that show the links and the gifts of a tidy store, where all gifts are on paths with
a slash. -/
structure Depicts (tables : Database) (grants : GrantTables) : Prop where
  shows : ShowsGrants tables grants.links grants.gifts
  tidy : grants.Tidy
  slashed : Slashed grants.gifts

theorem depicts_empty : Depicts Server.empty.tables GrantTables.empty where
  shows := by
    rw [GrantTables.links_empty, GrantTables.gifts_empty]
    exact showsGrants_empty rfl rfl
  tidy := GrantTables.tidy_empty
  slashed := by
    rw [GrantTables.gifts_empty]
    exact fun _ none => none.elim

/-- Held with a server whose tables show what a session holds, the conversation of an operation
comes to the answer of the session and leaves tables that show what it holds then. -/
theorem Depicts.hold (dialect : Dialect) {server : Server} {session : GrantSession}
    (depicts : Depicts server.tables session.tables) {op : GrantOp}
    (given : ∀ path ∈ op.givenOn, path.Slashed) (limit : Nat) :
    ∃ tables, server.hold dialect (grantTalk limit op) =
        (.ok (session.run op).1, { server with tables }) ∧
      Depicts tables (session.run op).2.tables := by
  obtain ⟨answer, tables, held, answered, shows⟩ :=
    acts_grantTalk depicts.slashed limit op server depicts.shows
  -- Neither answer is computed from the other: the relations leave only one.
  have same : answer = (session.run op).1 :=
    answered.unique (GrantSession.answered_run depicts.tidy op)
  rw [same] at held
  refine ⟨tables, held, ?_, GrantSession.tidy_run depicts.tidy op, ?_⟩
  · rwa [GrantSession.links_run, GrantSession.gifts_run]
  · rw [GrantSession.gifts_run]
    exact slashed_giftsAfter depicts.slashed given

namespace Site

variable {client : String} {session : GrantSession} {pool : Pool} {server : Server}

/-- A server on which a transaction is open that a session in memory stands for. -/
structure GrantsOnServer (client : String) (session : GrantSession) (pool : Pool)
    (server : Server) : Prop where
  isOpen : pool.closed = false
  active : pool.transactions.find? client = some true
  current : Depicts server.tables session.tables
  origin : ∃ saved, server.saved = some saved ∧ Depicts saved session.undo

variable (dialect : Dialect)

/-- A call on a server is answered as by the session, which stands for the transaction after
it, too. -/
theorem GrantsOnServer.call (on : GrantsOnServer client session pool server)
    (surroundings : Surroundings) {op : GrantOp} (given : ∀ path ∈ op.givenOn, path.Slashed) :
    ∃ poolAfter serverAfter,
      Site.turn dialect client (⟨.server pool, server⟩ : Site grantFamily)
          (.call surroundings op) =
        (.ok (some (session.run op).1), ⟨.server poolAfter, serverAfter⟩) ∧
      GrantsOnServer client (session.run op).2 poolAfter serverAfter := by
  obtain ⟨tables, held, depicts⟩ := on.current.hold dialect given pool.queryLimit
  refine ⟨_, _, @call_server grantFamily dialect client pool server on.active _ _ _ _ held, ?_⟩
  refine ⟨on.isOpen, on.active, depicts, ?_⟩
  rw [GrantSession.undo_run]
  exact on.origin

/-- A transaction that begins on a server stands beside the session that begins with what the
tables show. -/
theorem grantsOnServer_begin {grants : GrantTables} {tables : Database}
    (isOpen : pool.closed = false) (depicts : Depicts tables grants) :
    GrantsOnServer client (GrantSession.start grants)
      { pool with transactions := pool.transactions.insert client true }
      ⟨tables, some tables⟩ where
  isOpen := isOpen
  active := by simp [Dict.find?_insert]
  current := depicts
  origin := ⟨tables, rfl, depicts⟩

/-- The end of a transaction keeps what the session holds, or brings back what it began with. -/
theorem GrantsOnServer.finish (on : GrantsOnServer client session pool server) (kept : Bool) :
    ∃ poolAfter serverAfter,
      Site.turn dialect client (⟨.server pool, server⟩ : Site grantFamily) (.finish kept) =
        (.ok none, ⟨.server poolAfter, serverAfter⟩) ∧
      GrantsOnServer client (grantEngine.next session (.finish kept)) poolAfter serverAfter := by
  obtain ⟨saved, isSaved, original⟩ := on.origin
  have finished : (pool.finish client).closed = false := on.isOpen
  refine ⟨_, _, turn_finish_server on.isOpen on.active kept, ?_⟩
  cases kept with
  | true => exact grantsOnServer_begin finished on.current
  | false =>
    rw [isSaved]
    exact grantsOnServer_begin finished original

/-- A session stands for a site with a server, and turns to come give on paths with a slash. -/
structure ServesGrants (client : String) (turns : List (Turn grantEngine))
    (session : GrantSession) (site : Site grantFamily) : Prop where
  slashed : ∀ turn ∈ turns, ∀ path ∈ turn.givenOn, path.Slashed
  onServer : ∃ pool server, site = ⟨.server pool, server⟩ ∧
    GrantsOnServer client session pool server

theorem ServesGrants.turn {turn : Turn grantEngine} {rest : List (Turn grantEngine)}
    {site : Site grantFamily} (serves : ServesGrants client (turn :: rest) session site) :
    ∃ after, site.turn dialect client turn = (grantEngine.answer session turn, after) ∧
      ServesGrants client rest (grantEngine.next session turn) after := by
  obtain ⟨slashed, pool, server, rfl, on⟩ := serves
  obtain ⟨now, later⟩ := List.forall_mem_cons.1 slashed
  cases turn with
  | call surroundings op =>
    obtain ⟨poolAfter, serverAfter, taken, after⟩ := on.call dialect surroundings now
    exact ⟨_, taken, later, poolAfter, serverAfter, rfl, after⟩
  | finish kept =>
    obtain ⟨poolAfter, serverAfter, taken, after⟩ := on.finish dialect kept
    exact ⟨_, taken, later, poolAfter, serverAfter, rfl, after⟩

/-- A run on a server without rows is answered as by the sessions, and its tables show what the
last one holds. -/
theorem run_grants_server (settings : PoolSettings) {turns : List (Turn grantEngine)}
    (slashed : ∀ turn ∈ turns, ∀ path ∈ turn.givenOn, path.Slashed) :
    ∃ after, run dialect client
        (⟨.server (Pool.start settings), Server.empty⟩ : Site grantFamily) turns =
        (.ok none :: grantEngine.answers (GrantSession.start GrantTables.empty) turns, after) ∧
      Depicts after.server.tables
        (GrantSession.tables (grantEngine.after (GrantSession.start GrantTables.empty) turns)) := by
  have on := @grantsOnServer_begin client (Pool.start settings) _ _ rfl depicts_empty
  obtain ⟨after, played, -, _, _, rfl, last⟩ := @run_of_turn grantFamily dialect client
    (ServesGrants client) (fun serves => serves.turn dialect) turns _ _ _ (begin_server rfl)
    ⟨slashed, _, _, rfl, on⟩
  exact ⟨_, played, last.current⟩

end Site

/-- No turn of a session on grants fails. -/
theorem isOk_of_mem_answers {session : GrantSession} {turns : List (Turn grantEngine)}
    {answer : Except ClientError (Option GrantAnswer)}
    (listed : answer ∈ grantEngine.answers session turns) : ∃ value, answer = .ok value := by
  induction turns generalizing session with
  | nil => cases listed
  | cons turn rest ih =>
    rcases List.mem_cons.1 listed with rfl | later
    · cases turn with
      | call surroundings op => exact ⟨_, rfl⟩
      | finish kept => exact ⟨_, rfl⟩
    · exact ih later

/-- Taken on a store in memory and on a server without rows, the same turns have the same
answers, none of which is an error, if permissions are only given on paths with a slash.  After
them the tables of the server have one row for every link and every gift of the store in
memory. -/
theorem grant_backends_agree (dialect : Dialect) (settings : PoolSettings) (client : String)
    (turns : List (Turn grantEngine))
    (slashed : ∀ turn ∈ turns, ∀ path ∈ turn.givenOn, path.Slashed) :
    let inMemory : Site grantFamily :=
      ⟨.memory (SerialStore.start grantFamily.blank), Server.empty⟩
    let onServer : Site grantFamily := ⟨.server (Pool.start settings), Server.empty⟩
    (inMemory.run dialect client turns).1 = (onServer.run dialect client turns).1 ∧
      (∀ answer ∈ (onServer.run dialect client turns).1, ∃ value, answer = .ok value) ∧
      ∃ store, (inMemory.run dialect client turns).2.backend = .memory store ∧
        ShowsGrants (onServer.run dialect client turns).2.server.tables
          (SerialStore.tables store).links (SerialStore.tables store).gifts := by
  intro inMemory onServer
  obtain ⟨site, ran, store, server, rfl, opened⟩ :=
    @Site.run_memory grantFamily dialect client grantFamily.blank Server.empty turns
  obtain ⟨after, served, depicts⟩ := @Site.run_grants_server client dialect settings turns slashed
  rw [ran, served]
  refine ⟨rfl, ?_, store, rfl, ?_⟩
  · refine List.forall_mem_cons.2 ⟨⟨_, rfl⟩, fun answer listed => ?_⟩
    exact isOk_of_mem_answers listed
  · rw [SerialStore.tables_of_session opened]
    exact depicts.shows

/-- Signs of patterns are in paths and names, the list of users names one of them twice, and a
path is asked about that has no slash.  A transaction that takes a permission by replacing its
principals by none, and everything below a path, is undone. -/
theorem grant_backends_agree_escaped :
    let called (op : GrantOp) : Turn grantEngine := .call ⟨⟨0⟩, fun _ => ""⟩ op
    let turns := [called (.linkUsers "gr%up" ["u", everyone, "u"]),
      called (.give "gr%up" ⟨"read", ⟨"/a_b/%/c/x"⟩⟩), called (.give "u" ⟨"read", ⟨"/a_b/*"⟩⟩),
      called (.giveAll ⟨"/aXb/%/c/x"⟩ (Dict.ofList [("read", ["v", "v"]), ("write", [])])),
      called (.principalsOfAny [⟨"read", ⟨"/a_b/%/c/*"⟩⟩]), .finish true,
      called (.replaceAll ⟨"/a_b/%/c/x"⟩ (Dict.ofList [("read", []), ("w\\rite", ["u"])])),
      called (.grantsOn ⟨"/a_b/%/c/x"⟩), called (.takeBelow [⟨"/a_b"⟩]), called .size,
      .finish false, called (.userPrincipals "u"),
      called (.accessiblePaths ["u", "gr%up"] [⟨"read", ⟨"*"⟩⟩, ⟨"read", ⟨"/a_b/%/c/*"⟩⟩]),
      called .size]
    let settings : PoolSettings := ⟨"", 1, 0, 5, 30, 5⟩
    let inMemory : Site grantFamily :=
      ⟨.memory (SerialStore.start grantFamily.blank), Server.empty⟩
    let onServer : Site grantFamily := ⟨.server (Pool.start settings), Server.empty⟩
    (∀ turn ∈ turns, ∀ path ∈ turn.givenOn, path.Slashed) ∧
      (inMemory.run Dialect.plain "c" turns).1 = (onServer.run Dialect.plain "c" turns).1 ∧
      (∀ answer ∈ (onServer.run Dialect.plain "c" turns).1, ∃ value, answer = .ok value) ∧
      ∃ store, (inMemory.run Dialect.plain "c" turns).2.backend = .memory store ∧
        ShowsGrants (onServer.run Dialect.plain "c" turns).2.server.tables
          (SerialStore.tables store).links (SerialStore.tables store).gifts := by
  intro called turns settings inMemory onServer
  have slashed : ∀ turn ∈ turns, ∀ path ∈ turn.givenOn, path.Slashed := by decide +kernel
  exact ⟨slashed, grant_backends_agree Dialect.plain settings "c" turns slashed⟩

end DocStore
