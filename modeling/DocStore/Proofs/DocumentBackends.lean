import DocStore.Proofs.Backends
import DocStore.Proofs.Memory.Timeline
import DocStore.Proofs.Sql.DocumentAgreement

/-!
# Documents on both backends

A client that takes turns is answered alike by a store of documents in memory and by one on a
server, and in the end the tables of the server mirror what the store in memory holds
(`backends_agree`).  The sessions of the transactions in memory are what both runs are compared
with: at every turn the tables mirror what the session holds, and the tables that the server
saved mirror what a rollback of the session leaves (`Site.OnServer`).  The latest epochs stay
below a bound that grows by one with every stamp, so they never leave the integers of the
server.
-/

namespace DocStore

open Sql

/-! ## Turns -/

/-- A call of an operation on single documents or on the whole store.  The clock reads a
positive time below `2 ^ 62`, and an identifier that is handed out is not in use. -/
structure FairCall (session : DocumentSession) (surroundings : Surroundings) (op : DocumentOp) :
    Prop where
  positive : 1 ≤ surroundings.now.millis
  bounded : surroundings.now.millis < 2 ^ 62
  single : isOfCollection op = false
  fresh : takesId op = true → nextIdInUse session surroundings op = false

instance decidableFairCall (session : DocumentSession) (surroundings : Surroundings)
    (op : DocumentOp) : Decidable (FairCall session surroundings op) :=
  decidable_of_iff (1 ≤ surroundings.now.millis ∧ surroundings.now.millis < 2 ^ 62 ∧
      isOfCollection op = false ∧
      (takesId op = true → nextIdInUse session surroundings op = false))
    ⟨fun ⟨positive, bounded, single, fresh⟩ => ⟨positive, bounded, single, fresh⟩,
      fun ⟨positive, bounded, single, fresh⟩ => ⟨positive, bounded, single, fresh⟩⟩

/-- A turn whose call, if it is one, is fair. -/
def FairTurn (session : DocumentSession) : Turn documentEngine → Prop
  | .call surroundings op => FairCall session surroundings op
  | .finish _ => True

instance decidableFairTurn (session : DocumentSession) :
    (turn : Turn documentEngine) → Decidable (FairTurn session turn)
  | .call surroundings op => decidableFairCall session surroundings op
  | .finish _ => isTrue trivial

/-- Turns whose calls are fair when they are made. -/
def FairRun (session : DocumentSession) : List (Turn documentEngine) → Prop
  | [] => True
  | turn :: rest => FairTurn session turn ∧ FairRun (documentEngine.next session turn) rest

instance decidableFairRun (session : DocumentSession) :
    (turns : List (Turn documentEngine)) → Decidable (FairRun session turns)
  | [] => isTrue trivial
  | turn :: rest =>
    have := decidableFairRun (documentEngine.next session turn) rest
    inferInstanceAs (Decidable (FairTurn session turn ∧ _))

/-- The stamps of a turn. -/
def turnStamps (session : DocumentSession) : Turn documentEngine → List Stamp
  | .call surroundings op => session.stamps surroundings op
  | .finish _ => []

/-- The stamps of turns, those that are undone later among them. -/
def runStamps (session : DocumentSession) : List (Turn documentEngine) → List Stamp
  | [] => []
  | turn :: rest => turnStamps session turn ++ runStamps (documentEngine.next session turn) rest

/-! ## Tables and holdings -/

/-- Tables that mirror holdings whose latest epochs lie below a bound. -/
structure Faithful (bound : Int) (tables : Database) (holdings : Holdings) : Prop where
  mirrors : Mirrors tables holdings
  placed : holdings.Placed
  upTo : holdings.UpTo bound

theorem faithful_empty {bound : Int} (nonneg : 0 ≤ bound) :
    Faithful bound Server.empty.tables Holdings.empty where
  mirrors := mirrors_empty rfl rfl
  placed := Holdings.placed_empty
  upTo := Holdings.upTo_empty nonneg

theorem Faithful.mono {bound more : Int} {tables : Database} {holdings : Holdings}
    (faithful : Faithful bound tables holdings) (le : bound ≤ more) :
    Faithful more tables holdings :=
  { faithful with upTo := faithful.upTo.mono le }

/-- What a session holds stays in order, and its epochs grow at most by one with every stamp. -/
theorem ordered_run {session : DocumentSession} {surroundings : Surroundings} {op : DocumentOp}
    {bound : Int} (placed : session.holdings.Placed) (upTo : session.holdings.UpTo bound)
    (ticks : Ticks surroundings.now bound (session.stamps surroundings op).length) :
    (Outcome.state (session.run surroundings op)).holdings.Placed ∧
      (Outcome.state (session.run surroundings op)).holdings.UpTo
        (bound + (session.stamps surroundings op).length) := by
  obtain ⟨positive, bounded, room⟩ := ticks
  by_cases erases : op = .flush
  · -- A flush is no sequence of elementary changes, but starts again.
    subst erases
    exact ⟨Holdings.placed_empty, Holdings.upTo_empty (by omega)⟩
  · have changes := DocumentSession.changes_run session surroundings erases
    exact ⟨placed.changes changes, upTo.changes bounded room changes⟩

namespace Site

variable {client : String} {bound : Int} {session : DocumentSession} {pool : Pool}
  {server : Server}

/-- A server on which a transaction is open that a session in memory stands for. -/
structure OnServer (client : String) (bound : Int) (session : DocumentSession) (pool : Pool)
    (server : Server) : Prop where
  isOpen : pool.closed = false
  active : pool.transactions.find? client = some true
  minted : pool.minted = session.minted
  current : Faithful bound server.tables session.holdings
  origin : ∃ saved, server.saved = some saved ∧ Faithful bound saved session.undo

/-- Within a transaction only the tables and the count of identifiers change. -/
theorem OnServer.goOn (on : OnServer client bound session pool server) {after : DocumentSession}
    {more : Int} (le : bound ≤ more) {taken : Nat} {tables : Database}
    (minted : session.minted + taken = after.minted) (undone : after.undo = session.undo)
    (current : Faithful more tables after.holdings) :
    OnServer client more after { pool with minted := pool.minted + taken }
      { server with tables } where
  isOpen := on.isOpen
  active := on.active
  minted := on.minted ▸ minted
  current := current
  origin := by
    obtain ⟨saved, isSaved, original⟩ := on.origin
    exact ⟨saved, isSaved, undone ▸ original.mono le⟩

variable (dialect : Dialect)

/-- A call on a server is answered as by the session, which stands for the transaction after
it, too. -/
theorem OnServer.call (on : OnServer client bound session pool server)
    {surroundings : Surroundings} {op : DocumentOp} (fair : FairCall session surroundings op)
    (clock : 2 ^ 62 ≤ bound + 1)
    (room : bound + (session.stamps surroundings op).length + 1 < 2 ^ 63) :
    ∃ poolAfter serverAfter,
      turn dialect client (⟨.server pool, server⟩ : Site documentFamily) (.call surroundings op) =
        (documentEngine.answer session (.call surroundings op),
          ⟨.server poolAfter, serverAfter⟩) ∧
      OnServer client (bound + (session.stamps surroundings op).length)
        (documentEngine.next session (.call surroundings op)) poolAfter serverAfter := by
  have grown : bound ≤ bound + (session.stamps surroundings op).length := by omega
  have ticks : Ticks surroundings.now bound ((session.stamps surroundings op).length + 1) :=
    ⟨fair.positive, by have bounded := fair.bounded; omega, by omega⟩
  have agrees := @agrees_run dialect bound session surroundings op pool.queryLimit
    on.current.placed on.current.upTo ticks fair.single fair.fresh
  rw [← on.minted] at agrees
  obtain ⟨tables, held, mirrors⟩ := agrees server on.current.mirrors
  obtain ⟨placed, upTo⟩ :=
    ordered_run on.current.placed on.current.upTo (ticks.mono (Nat.le_succ _))
  refine ⟨_, _, @call_server documentFamily dialect client pool server on.active _ _ _ _ held, ?_⟩
  exact on.goOn grown (minted_state_run session surroundings op).symm
    (DocumentSession.undo_state_run session surroundings op) ⟨mirrors, placed, upTo⟩

/-- A transaction that begins on a server stands beside the session that begins with what the
tables mirror. -/
theorem onServer_begin (content : Holdings × Nat) {tables : Database}
    (isOpen : pool.closed = false) (minted : pool.minted = content.2)
    (faithful : Faithful bound tables content.1) :
    OnServer client bound (documentEngine.start content)
      { pool with transactions := pool.transactions.insert client true }
      ⟨tables, some tables⟩ where
  isOpen := isOpen
  active := by simp [Dict.find?_insert]
  minted := minted
  current := faithful
  origin := ⟨tables, rfl, faithful⟩

/-- The end of a transaction keeps what the session holds, or brings back what it began with. -/
theorem OnServer.finish (on : OnServer client bound session pool server) (kept : Bool) :
    ∃ poolAfter serverAfter,
      turn dialect client (⟨.server pool, server⟩ : Site documentFamily) (.finish kept) =
        (documentEngine.answer session (.finish kept), ⟨.server poolAfter, serverAfter⟩) ∧
      OnServer client bound (documentEngine.next session (.finish kept)) poolAfter serverAfter := by
  obtain ⟨saved, isSaved, original⟩ := on.origin
  have finished : (pool.finish client).closed = false := on.isOpen
  refine ⟨_, _, turn_finish_server on.isOpen on.active kept, ?_⟩
  cases kept with
  | true => exact onServer_begin (session.holdings, session.minted) finished on.minted on.current
  | false =>
    rw [isSaved]
    exact onServer_begin (session.undo, session.minted) finished on.minted original

theorem OnServer.turn (on : OnServer client bound session pool server)
    {turn : Turn documentEngine} (fair : FairTurn session turn) (clock : 2 ^ 62 ≤ bound + 1)
    (room : bound + (turnStamps session turn).length + 1 < 2 ^ 63) :
    ∃ poolAfter serverAfter,
      Site.turn dialect client (⟨.server pool, server⟩ : Site documentFamily) turn =
        (documentEngine.answer session turn, ⟨.server poolAfter, serverAfter⟩) ∧
      OnServer client (bound + (turnStamps session turn).length)
        (documentEngine.next session turn) poolAfter serverAfter := by
  cases turn with
  | call surroundings op => exact on.call dialect fair clock room
  | finish kept =>
    rw [turnStamps, List.length_nil, Int.natCast_zero, Int.add_zero]
    exact on.finish dialect kept

/-- A session stands for a site with a server that has room for the stamps of all turns to
come. -/
structure Serves (client : String) (turns : List (Turn documentEngine))
    (session : DocumentSession) (site : Site documentFamily) : Prop where
  fair : FairRun session turns
  onServer : ∃ pool server bound, site = ⟨.server pool, server⟩ ∧
    OnServer client bound session pool server ∧ 2 ^ 62 ≤ bound + 1 ∧
    bound + (runStamps session turns).length + 1 < 2 ^ 63

theorem Serves.turn {turn : Turn documentEngine} {rest : List (Turn documentEngine)}
    {site : Site documentFamily} (serves : Serves client (turn :: rest) session site) :
    ∃ after, site.turn dialect client turn = (documentEngine.answer session turn, after) ∧
      Serves client rest (documentEngine.next session turn) after := by
  obtain ⟨⟨now, later⟩, pool, server, bound, rfl, on, clock, room⟩ := serves
  rw [runStamps, List.length_append, Int.natCast_add, ← Int.add_assoc] at room
  obtain ⟨poolAfter, serverAfter, taken, after⟩ := on.turn dialect now clock (by omega)
  exact ⟨_, taken, later, poolAfter, serverAfter, _, rfl, after, by omega, room⟩

/-- A run on a server without rows is answered as by the sessions, and its tables mirror what
the last one holds, where every document is in its place. -/
theorem run_server (settings : PoolSettings) {turns : List (Turn documentEngine)}
    (fair : FairRun (DocumentSession.start Holdings.empty 0) turns)
    (few : (runStamps (DocumentSession.start Holdings.empty 0) turns).length < 2 ^ 62) :
    ∃ after, run dialect client
        (⟨.server (Pool.start settings), Server.empty⟩ : Site documentFamily) turns =
        (.ok none :: documentEngine.answers (DocumentSession.start Holdings.empty 0) turns,
          after) ∧
      ∃ bound, Faithful bound after.server.tables
        (documentEngine.after (DocumentSession.start Holdings.empty 0) turns).holdings := by
  have empty : Faithful (2 ^ 62 - 1) Server.empty.tables Holdings.empty :=
    faithful_empty (by decide)
  have on := @onServer_begin client _ (Pool.start settings) (Holdings.empty, 0) _ rfl rfl empty
  obtain ⟨after, played, -, _, _, _, rfl, last, -⟩ := @run_of_turn documentFamily dialect client
    (Serves client) (fun serves => serves.turn dialect) turns _ _ _ (begin_server rfl)
    ⟨fair, _, _, _, rfl, on, by decide, by omega⟩
  exact ⟨_, played, _, last.current⟩

end Site

/-- Taken on a store in memory and on a server without rows, the same turns have the same
answers and errors.  In the end every document in memory is in its place, and the tables of the
server have the live documents, the tombstones and the latest epochs of the store in memory. -/
theorem backends_agree (dialect : Dialect) (settings : PoolSettings) (client : String)
    (turns : List (Turn documentEngine))
    (fair : FairRun (DocumentSession.start Holdings.empty 0) turns)
    (few : (runStamps (DocumentSession.start Holdings.empty 0) turns).length < 2 ^ 62) :
    let inMemory : Site documentFamily :=
      ⟨.memory (SerialStore.start documentFamily.blank), Server.empty⟩
    let onServer : Site documentFamily := ⟨.server (Pool.start settings), Server.empty⟩
    (inMemory.run dialect client turns).1 = (onServer.run dialect client turns).1 ∧
      ∃ store, (inMemory.run dialect client turns).2.backend = .memory store ∧
        (SerialStore.holdings store).Placed ∧
        Mirrors (onServer.run dialect client turns).2.server.tables
          (SerialStore.holdings store) := by
  intro inMemory onServer
  obtain ⟨site, ran, store, server, rfl, opened⟩ :=
    @Site.run_memory documentFamily dialect client documentFamily.blank Server.empty turns
  obtain ⟨after, served, _, faithful⟩ := @Site.run_server client dialect settings turns fair few
  rw [ran, served]
  refine ⟨rfl, store, rfl, ?_⟩
  rw [SerialStore.holdings_of_session opened]
  exact ⟨faithful.placed, faithful.mirrors⟩

/-- A document is deleted with one below it, whose identifier was handed out, and stored again;
the tombstone that is left is purged, and the transaction is undone.  Then the document is
changed and deleted with others. -/
theorem backends_agree_cascade :
    let called (millis : Int) (op : DocumentOp) : Turn documentEngine :=
      .call ⟨⟨millis⟩, fun count => if count = 0 then "x" else "y"⟩ op
    let turns := [called 5 (.create ⟨"/a/*"⟩ (Document.withId "one")),
      called 3 (.create ⟨"/a/one/b_c/*"⟩ (Document.withId "")), .finish true,
      called 2 (.delete ⟨"/a/one"⟩), called 4 (.create ⟨"/a/*"⟩ (Document.withId "one")),
      called 4 (.purge ⟨0⟩), called 4 .size, .finish false,
      called 1 (.update ⟨⟨"/a/one"⟩, Document.withId "one"⟩), called 9 (.get ⟨"/a/two"⟩),
      called 9 (.deleteAll [⟨"/a/one"⟩, ⟨"/a/one/b_c/x"⟩]), called 9 (.latestEpoch ⟨"/a/*"⟩)]
    let settings : PoolSettings := ⟨"", 1, 0, 5, 30, 5⟩
    let inMemory : Site documentFamily :=
      ⟨.memory (SerialStore.start documentFamily.blank), Server.empty⟩
    let onServer : Site documentFamily := ⟨.server (Pool.start settings), Server.empty⟩
    FairRun (DocumentSession.start Holdings.empty 0) turns ∧
      (runStamps (DocumentSession.start Holdings.empty 0) turns).length = 8 ∧
      (inMemory.run Dialect.plain "c" turns).1 = (onServer.run Dialect.plain "c" turns).1 ∧
      ∃ store, (inMemory.run Dialect.plain "c" turns).2.backend = .memory store ∧
        (SerialStore.holdings store).Placed ∧
        Mirrors (onServer.run Dialect.plain "c" turns).2.server.tables
          (SerialStore.holdings store) := by
  intro called turns settings inMemory onServer
  have fair : FairRun (DocumentSession.start Holdings.empty 0) turns := by decide +kernel
  have stamped : (runStamps (DocumentSession.start Holdings.empty 0) turns).length = 8 := by
    decide +kernel
  exact ⟨fair, stamped, backends_agree Dialect.plain settings "c" turns fair (by omega)⟩

end DocStore
