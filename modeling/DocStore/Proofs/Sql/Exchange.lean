import DocStore.Proofs.Sql.Tables

/-!
# Conversations with tables

Holding a conversation with a server goes on, after a part that ends well, with the server
that this part leaves (`holdWith_bind`).  A statement that is not refused is answered by what
it does to the tables, so a query in a conversation comes to its rows.  Such a server is never
silent, and time limits do not matter (`hold_within`).
-/

namespace DocStore
namespace Sql
namespace Conversation

variable {ε δ α β σ : Type} {answer : σ → Message → Reply × σ} {state : σ}

/-- After a conversation that ends well, the next one is held with the server that it leaves. -/
theorem holdWith_bind (conversation : Conversation ε α) (next : α → Conversation ε β) :
    (conversation >>= next).holdWith answer state =
      match conversation.holdWith answer state with
      | (.ok value, after) => (next value).holdWith answer after
      | (.error error, after) => (.error error, after) := by
  induction conversation generalizing state with
  | finish result => cases result <;> rfl
  | ask message reply ih => exact ih _

theorem holdWith_attempt (conversation : Conversation ε α) :
    (conversation.attempt : Conversation δ (Except ε α)).holdWith answer state =
      (.ok (conversation.holdWith answer state).1, (conversation.holdWith answer state).2) := by
  induction conversation generalizing state with
  | finish result => rfl
  | ask message reply ih => exact ih _

end Conversation

namespace Server

open Conversation

variable {dialect : Dialect} {server after : Server} {α β : Type}

/-- Holds a conversation with a server. -/
def hold (dialect : Dialect) (server : Server) (talk : Talk α) : Except StoreError α × Server :=
  talk.holdWith (answer dialect) server

theorem hold_bind (talk : Talk α) (next : α → Talk β) :
    server.hold dialect (talk >>= next) =
      match server.hold dialect talk with
      | (.ok value, after) => after.hold dialect (next value)
      | (.error error, after) => (.error error, after) := by
  simp only [hold, holdWith_bind]
  rcases talk.holdWith (answer dialect) server with ⟨_ | _, _⟩ <;> rfl

theorem hold_bind_ok {talk : Talk α} {value : α} (next : α → Talk β)
    (held : server.hold dialect talk = (.ok value, after)) :
    server.hold dialect (talk >>= next) = after.hold dialect (next value) := by
  rw [hold_bind, held]

theorem hold_bind_error {talk : Talk α} {error : StoreError} (next : α → Talk β)
    (held : server.hold dialect talk = (.error error, after)) :
    server.hold dialect (talk >>= next) = (.error error, after) := by
  rw [hold_bind, held]

/-- The server always replies. -/
theorem answer_ne_silence (message : Message) : (server.answer dialect message).1 ≠ .silence := by
  intro silent
  cases message with
  | begin | commit | rollback => cases silent
  | statement statement =>
    unfold answer at silent
    cases executed : dialect.execute server.tables statement <;> simp [executed] at silent

/-- A time limit changes nothing. -/
theorem hold_within (task : String) (limit : Nat) (talk : Talk α) :
    server.hold dialect (talk.within task limit) = server.hold dialect talk := by
  induction talk generalizing server with
  | finish result => rfl
  | ask message reply ih =>
    have spoken : (server.answer dialect message).1 ≠ .silence := answer_ne_silence message
    simp only [hold, within, holdWith]
    cases replied : (server.answer dialect message).1 with
    | silence => exact absurd replied spoken
    | done rows affected => exact ih _
    | refused text => exact ih _

/-! ## Statements -/

/-- A statement is executed: it returns rows and leaves tables. -/
structure Runs (dialect : Dialect) (server : Server) (statement : Statement) (rows : List Row)
    (affected : Nat) (after : Server) : Prop where
  executes : ∃ tables, dialect.execute server.tables statement = .ok ⟨rows, affected, tables⟩ ∧
    after = { server with tables }

variable {statement : Statement} {rows : List Row} {affected : Nat}

theorem Runs.answer_eq (runs : server.Runs dialect statement rows affected after) :
    server.answer dialect (.statement statement) = (.done rows affected, after) := by
  obtain ⟨tables, executed, rfl⟩ := runs.executes
  simp [answer, executed]

theorem Runs.send (runs : server.Runs dialect statement rows affected after)
    (error : String → StoreError) :
    server.hold dialect (send error (.statement statement)) =
      (.ok (rows, (affected : Int)), after) := by
  simp only [hold, Conversation.send, holdWith, runs.answer_eq]

theorem Runs.affected_eq (runs : server.Runs dialect statement rows affected after)
    (task : String) :
    server.hold dialect (Conversation.execute task statement) = (.ok (affected : Int), after) :=
  (hold_bind_ok _ (runs.send _)).trans rfl

theorem Runs.fetchAll {read : Row → Except String α} {values : List α} (task : String)
    (runs : server.Runs dialect statement rows affected after)
    (decoded : rows.mapM read = .ok values) :
    server.hold dialect (Conversation.fetchAll task read statement) = (.ok values, after) := by
  refine (hold_bind_ok _ (runs.send _)).trans ?_
  rw [decoded]
  rfl

theorem Runs.fetchFirst_none {read : Row → Except String α} (task : String)
    (runs : server.Runs dialect statement [] affected after) :
    server.hold dialect (Conversation.fetchFirst task read statement) = (.ok none, after) :=
  (hold_bind_ok _ (runs.send _)).trans rfl

theorem Runs.fetchFirst_some {read : Row → Except String α} {row : Row} {rest : List Row}
    {value : α} (task : String)
    (runs : server.Runs dialect statement (row :: rest) affected after)
    (decoded : read row = .ok value) :
    server.hold dialect (Conversation.fetchFirst task read statement) =
      (.ok (some value), after) := by
  refine (hold_bind_ok _ (runs.send _)).trans ?_
  simp only [decoded]
  rfl

theorem Runs.fetchOne {read : Row → Except String α} {row : Row} {rest : List Row} {value : α}
    (task path : String) (runs : server.Runs dialect statement (row :: rest) affected after)
    (decoded : read row = .ok value) :
    server.hold dialect (Conversation.fetchOne task path read statement) = (.ok value, after) :=
  (hold_bind_ok _ (runs.fetchFirst_some task decoded)).trans rfl

theorem Runs.fetchOne_none {read : Row → Except String α} (task path : String)
    (runs : server.Runs dialect statement [] affected after) :
    server.hold dialect (Conversation.fetchOne task path read statement) =
      (.error (.notFound path), after) :=
  (hold_bind_ok _ (runs.fetchFirst_none task)).trans rfl

end Server

theorem runs_query (dialect : Dialect) (server : Server) (query : Select) :
    server.Runs dialect (.select query) (dialect.rows server.tables query)
      (dialect.rows server.tables query).length server :=
  ⟨⟨server.tables, rfl, rfl⟩⟩

/-- A query whose rows show values. -/
theorem runs_rows {α : Type} {dialect : Dialect} {server : Server} {query : Select}
    {row : α → Row} {values : List α}
    (rows : dialect.rows server.tables query = values.map row) :
    server.Runs dialect (.select query) (values.map row) values.length server := by
  have runs := runs_query dialect server query
  rwa [rows, List.length_map] at runs

end Sql
end DocStore
