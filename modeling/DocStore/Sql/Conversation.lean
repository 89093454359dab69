import DocStore.Sql.Statement
import DocStore.StoreError

/-!
# Conversations with a server

What is sent to a server next depends on what it replied before.  A conversation is a
tree of that shape: it is over, or it sends a message and goes on with the reply.  A
server is whatever answers messages, so the same conversation can be held with a
script or with tables.
-/

namespace DocStore
namespace Sql

/-- What is sent to a server. -/
inductive Message where
  /-- Opens a transaction. -/
  | begin
  /-- Keeps what a transaction did. -/
  | commit
  /-- Undoes what a transaction did. -/
  | rollback
  /-- A statement. -/
  | statement (statement : Statement)

/-- The cells of a row, in the order of the statement's columns.  A missing value
arrives as null. -/
abbrev Row := List Json

/-- What a server replies. -/
inductive Reply where
  /-- The statement is done: the rows it returns, and how many rows it changed. -/
  | done (rows : List Row) (affected : Int)
  /-- The statement is refused. -/
  | refused (message : String)
  /-- No reply comes in time. -/
  | silence

/-- A conversation that ends in a value or an error. -/
inductive Conversation (ε α : Type) where
  /-- It is over. -/
  | finish (result : Except ε α)
  /-- It sends a message and waits for the reply. -/
  | ask (message : Message) (next : Reply → Conversation ε α)

/-- A conversation that can end in the error of a store. -/
abbrev Talk (α : Type) := Conversation StoreError α

namespace Conversation

variable {ε δ α β : Type}

/-- Goes on after a conversation that ends well. -/
def andThen (next : α → Conversation ε β) : Conversation ε α → Conversation ε β
  | finish (.ok value) => next value
  | finish (.error error) => finish (.error error)
  | ask message answer => ask message fun reply => andThen next (answer reply)

instance : Monad (Conversation ε) where
  pure value := finish (.ok value)
  bind conversation next := conversation.andThen next

/-- Ends with an error. -/
def fail (error : ε) : Conversation ε α := finish (.error error)

/-- Takes the result of a conversation, error or not, as its value. -/
def attempt : Conversation ε α → Conversation δ (Except ε α)
  | finish result => finish (.ok result)
  | ask message answer => ask message fun reply => attempt (answer reply)

/-- Ends with a timeout when a reply does not come in time. -/
def within (operation : String) (limit : Nat) : Talk α → Talk α
  | finish result => finish result
  | ask message answer => ask message fun reply =>
    match reply with
    | .silence => finish (.error (.timeout operation limit))
    | reply => within operation limit (answer reply)

/-- Holds a conversation with a server that has a state. -/
def holdWith {σ : Type} (server : σ → Message → Reply × σ) (state : σ) :
    Conversation ε α → Except ε α × σ
  | finish result => (result, state)
  | ask message answer =>
    let replied := server state message
    holdWith server replied.2 (answer replied.1)

/-! ## Messages -/

/-- How the refusal of a message is worded. -/
def refusal (message : String) : String := "error returned from database: " ++ message

/-- Sends a message; a refusal becomes the error made of its wording. -/
def send (error : String → StoreError) (message : Message) : Talk (List Row × Int) :=
  ask message fun reply =>
    match reply with
    | .done rows affected => finish (.ok (rows, affected))
    | .refused text => fail (error (refusal text))
    | .silence => fail (error "no reply")

/-- The wording of a failure. -/
def failure (task cause : String) : String := "Failed to " ++ task ++ ": " ++ cause

/-- The error of a statement that serves a task. -/
def queryError (task cause : String) : StoreError := .query (failure task cause)

/-- Sends a statement and tells how many rows it changed. -/
def execute (task : String) (statement : Statement) : Talk Int := do
  let done ← send (queryError task) (.statement statement)
  return done.2

end Conversation

/-! ## Cells -/

/-- What is wrong with a cell: nothing is where a value must be. -/
def missingCell (column : String) : String :=
  "error occurred while decoding column " ++ column ++
    ": unexpected null; try decoding as an \x60Option\x60"

/-- How a cell is read: from its number and its value. -/
abbrev CellReader (α : Type) := Nat → Json → Except String α

/-- The name of a column that is known by its number. -/
def columnNumber (index : Nat) : String := String.ofList (Text.Numeral.showNat index)

/-- A text. -/
def textCell : CellReader String := fun index cell =>
  match cell with
  | .str text => .ok text
  | _ => .error (missingCell (columnNumber index))

/-- An integer. -/
def intCell : CellReader Int := fun index cell =>
  match cell with
  | .int value => .ok value
  | _ => .error (missingCell (columnNumber index))

/-- A truth value. -/
def boolCell : CellReader Bool := fun index cell =>
  match cell with
  | .bool value => .ok value
  | _ => .error (missingCell (columnNumber index))

/-- A value of JSON, where null is a value too. -/
def jsonCell : CellReader Json := fun _ cell => .ok cell

/-- Reads a row of one cell. -/
def single {α : Type} (cell : CellReader α) (row : Row) : Except String α :=
  cell 0 (row.headD .null)

/-- Reads a row of two texts. -/
def textPair (row : Row) : Except String (String × String) := do
  let first ← textCell 0 (row.headD .null)
  let second ← textCell 1 ((row.drop 1).headD .null)
  return (first, second)

namespace Conversation

variable {α : Type}

/-- Goes on with what was read from a row. -/
def readOrFail (task : String) : Except String α → Talk α
  | .ok value => pure value
  | .error cause => fail (queryError task cause)

/-- Sends a query and reads its rows. -/
def fetchAll (task : String) (read : Row → Except String α) (statement : Statement) :
    Talk (List α) := do
  let done ← send (queryError task) (.statement statement)
  readOrFail task (done.1.mapM read)

/-- Sends a query and reads the first of its rows, if there is one. -/
def fetchFirst (task : String) (read : Row → Except String α) (statement : Statement) :
    Talk (Option α) := do
  let done ← send (queryError task) (.statement statement)
  match done.1 with
  | [] => return none
  | row :: _ => return some (← readOrFail task (read row))

/-- Sends a query that must show a row; without one, the path is not found. -/
def fetchOne (task path : String) (read : Row → Except String α) (statement : Statement) :
    Talk α := do
  match ← fetchFirst task read statement with
  | some value => return value
  | none => fail (.notFound path)

end Conversation
end Sql
end DocStore
