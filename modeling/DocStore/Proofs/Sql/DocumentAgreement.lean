import DocStore.Backend
import DocStore.Proofs.Sql.DocumentSteps

/-!
# Documents on a server and in memory

An operation is a conversation with a server and a change of a session in memory.  Held with a
server whose tables mirror the session's holdings, the conversation comes to the answer or the
error of the session and leaves tables that mirror what the session holds then (`agrees_run`).
Listings and counts are left out: they ask the server to evaluate a condition.
-/

namespace DocStore
namespace Sql

variable {dialect : Dialect} {bound : Int}

/-! ## Operations -/

/-- Held with a server whose tables mirror the holdings of a session, a conversation comes to
what the session comes to. -/
def Agrees (dialect : Dialect) (session : DocumentSession) (talk : Talk DocumentAnswer)
    (ran : Except (StoreError × DocumentSession) (DocumentAnswer × DocumentSession)) : Prop :=
  Simulates dialect session.holdings talk (Outcome.result ran) (Outcome.state ran).holdings

/-- A path of the wrong kind is refused by a session too. -/
theorem run_of_checkPath {op : DocumentOp} {error : StoreError}
    (refused : checkPath op = .error error) (session : DocumentSession)
    (surroundings : Surroundings) :
    session.run surroundings op = .error (error, session) := by
  cases op with
  | flush | purge _ | deleteAll _ | size => cases refused
  | latestEpoch path | «exists» path | get path | getForUpdate path | delete path =>
    rw [checkPath] at refused
    rw [DocumentSession.run, refused]
    rfl
  | create path document =>
    rw [checkPath] at refused
    rw [DocumentSession.run, DocumentSession.create, refused]
    rfl
  | update handle =>
    rw [checkPath] at refused
    rw [DocumentSession.run, DocumentSession.update, refused]
    rfl
  | list path _ | count path _ =>
    rw [checkPath] at refused
    rw [DocumentSession.run, refused]
    rfl

/-- A conversation that stores a document as a session does. -/
theorem agrees_store (session : DocumentSession) {name : String} {document : Document}
    {now : Epoch} {talk : Talk Document}
    (stored : Simulates dialect session.holdings talk
      (.ok { document with modified := session.holdings.nextEpoch name now, deleted := false })
      (session.holdings.store name { document with deleted := false } now)) :
    Agrees dialect session (talk >>= fun stored => pure (.document stored))
      (.ok (.document (session.store name document now).1,
        (session.store name document now).2)) := by
  rw [← session.holdings_store] at stored
  rw [session.store_fst]
  exact stored.bind (.finish _)

section

variable (session : DocumentSession) (placed : session.holdings.Placed)

include placed in
theorem agrees_fetchDocument (path : Path) (locking : Bool) (answer : Document → DocumentAnswer) :
    Agrees dialect session
      (fetchDocument path locking >>= fun document => pure (answer document))
      (match session.find? path with
        | some document => .ok (answer document, session)
        | none => .error (.notFound path.text, session)) := by
  have fetched := simulates_fetchDocument dialect placed path locking
  unfold DocumentSession.find?
  cases found : session.holdings.live.find? path.collection path.documentId with
  | some document =>
    rw [found] at fetched
    exact fetched.bind (.finish _)
  | none =>
    rw [found] at fetched
    exact fetched.bind_error _

theorem agrees_latestEpoch (name : String) :
    Agrees dialect session
      (Conversation.fetchFirst "get namespace epoch" (single intCell) (selectEpoch name) >>=
        fun millis => pure (.epoch ⟨millis.getD 0⟩))
      (.ok (.epoch (session.holdings.live.collection name).latest, session)) := by
  have latest : (session.holdings.live.collection name).latest =
      ⟨((session.holdings.epoch? name).map (·.millis)).getD 0⟩ := by
    rw [Holdings.latest_eq]
    cases session.holdings.epoch? name <;> rfl
  rw [latest]
  exact (simulates_latestEpoch dialect name).bind (.finish _)

variable (upTo : session.holdings.UpTo bound) {now : Epoch}
include placed upTo

theorem agrees_delete (path : Path)
    (ticks : Ticks now bound (session.deleteStamps path now true).length) :
    Agrees dialect session
      (delete path now true >>= fun tombstone =>
        match tombstone with
        | some tombstone => pure (.document tombstone)
        | none => Conversation.fail (.notFound path.text))
      (match session.delete path now true with
        | (some tombstone, after) => .ok (.document tombstone, after)
        | (none, after) => .error (.notFound path.text, after)) := by
  have deleted := simulates_delete dialect session placed upTo path true ticks
  cases outcome : session.delete path now true with
  | mk found after =>
    rw [outcome] at deleted
    cases found with
    | some tombstone => exact deleted.bind (.finish (.ok (DocumentAnswer.document tombstone)))
    | none => exact deleted.bind (.finish (.error (.notFound path.text)))

theorem agrees_create (surroundings : Surroundings)
    (ticks : Ticks surroundings.now bound 1) (path : Path) (node : path.isNode = true)
    (document : Document)
    (fresh : document.id.isEmpty = true → session.holdings.live.find? path.collection
      (surroundings.ids session.minted) = none) :
    Agrees dialect session
      (create path document (surroundings.ids session.minted) surroundings.now >>=
        fun created => pure (.document created))
      (session.create surroundings path document) := by
  have created := simulates_create dialect placed upTo ticks path document _ fresh
  rw [DocumentSession.create, requireNode, if_pos node]
  cases unnamed : document.id.isEmpty with
  | true =>
    simp only [unnamed, if_true, fresh unnamed, Option.isSome_none, Bool.false_eq_true,
      if_false] at created
    exact agrees_store { session with minted := session.minted + 1 } created
  | false =>
    simp only [unnamed, Bool.false_eq_true, if_false] at created
    cases found : session.holdings.live.find? path.collection document.id with
    | some taken =>
      simp only [found, Option.isSome_some, if_true] at created
      simp only [found, Option.isSome_some, if_true]
      exact created.bind_error _
    | none =>
      simp only [found, Option.isSome_none, Bool.false_eq_true, if_false] at created
      simp only [found, Option.isSome_none, Bool.false_eq_true, if_false]
      exact agrees_store session created

end

/-- Whether an operation lists or counts the documents of a collection. -/
def isOfCollection : DocumentOp → Bool
  | .list _ _ | .count _ _ => true
  | _ => false

/-- Whether the identifier that is handed out next is in use where an operation stores a new
document. -/
def nextIdInUse (session : DocumentSession) (surroundings : Surroundings) : DocumentOp → Bool
  | .create path _ =>
    (session.holdings.live.find? path.collection (surroundings.ids session.minted)).isSome
  | _ => false

/-- A server answers an operation as a session does, and its tables follow. -/
theorem agrees_run (session : DocumentSession) (surroundings : Surroundings) {op : DocumentOp}
    (limit : Nat) (placed : session.holdings.Placed) (upTo : session.holdings.UpTo bound)
    (ticks : Ticks surroundings.now bound ((session.stamps surroundings op).length + 1))
    (single : isOfCollection op = false)
    (fresh : takesId op = true → nextIdInUse session surroundings op = false) :
    Agrees dialect session
      (documentTalk limit surroundings.now (surroundings.ids session.minted) op)
      (session.run surroundings op) := by
  cases checked : checkPath op with
  | error error =>
    rw [documentTalk, checked, run_of_checkPath checked]
    exact .finish _
  | ok _ =>
    have one := ticks.mono (Nat.le_add_left 1 _)
    have all := ticks.mono (Nat.le_succ _)
    rw [documentTalk, checked]
    refine Simulates.within _ _ ?_
    cases op with
    | flush => exact (simulates_flush dialect).bind (.finish _)
    | purge olderThan => exact (simulates_purge dialect session placed olderThan).bind (.finish _)
    | size => exact (simulates_size dialect placed).bind (.finish _)
    | deleteAll paths =>
      exact (simulates_deleteAll dialect session placed upTo paths all).bind (.finish _)
    | list path _ | count path _ => cases single
    | latestEpoch path =>
      rw [checkPath] at checked
      rw [DocumentSession.run, checked]
      exact agrees_latestEpoch session path.collection
    | «exists» path =>
      rw [checkPath] at checked
      rw [DocumentSession.run, checked]
      exact (simulates_isLive dialect placed _ _).bind (.finish _)
    | get path =>
      rw [checkPath] at checked
      rw [DocumentSession.run, checked]
      exact agrees_fetchDocument session placed path false .document
    | getForUpdate path =>
      rw [checkPath] at checked
      rw [DocumentSession.run, checked]
      exact agrees_fetchDocument session placed path true fun document => .handle ⟨path, document⟩
    | delete path =>
      rw [checkPath] at checked
      have leaf := DocumentSession.isLeaf_of_requireLeaf checked
      rw [DocumentSession.run, checked]
      rw [DocumentSession.stamps, leaf] at all
      exact agrees_delete session placed upTo path all
    | create path document =>
      have node := DocumentSession.isNode_of_requireNode checked
      refine agrees_create session placed upTo surroundings one path node document fun unnamed => ?_
      exact Option.not_isSome_iff_eq_none.1
        (ne_true_of_eq_false (fresh (by rw [takesId, node, unnamed]; rfl)))
    | update handle =>
      rw [checkPath] at checked
      rw [DocumentSession.run, DocumentSession.update, checked]
      exact agrees_store session (simulates_update dialect upTo one handle)

/-! ## Identifiers that are handed out -/

section

variable {session : DocumentSession} {surroundings : Surroundings} {op : DocumentOp}

/-- A session counts the identifiers that are handed out. -/
theorem minted_of_run {answer : DocumentAnswer} {after : DocumentSession}
    (ran : session.run surroundings op = .ok (answer, after)) :
    after.minted = session.minted + (takesId op).toNat := by
  cases DocumentSession.effect_of_run ran with
  | read _ _ reads =>
    cases op with
    | create path document => cases reads
    | _ => rfl
  | flush => rfl
  | purge olderThan => exact DocumentSession.lasting_minted.purge session olderThan
  | created path document node named =>
    rw [takesId, node, named]
    exact DocumentSession.lasting_minted.store ..
  | minted path document named counted node unnamed _ counting =>
    rw [takesId, node, unnamed, DocumentSession.lasting_minted.store, counting]
    rfl
  | updated => exact DocumentSession.lasting_minted.store ..
  | deleted path _ tombstone _ found =>
    have kept := DocumentSession.lasting_minted.delete session surroundings.now path true
    rwa [found] at kept
  | deletedAll paths =>
    exact DocumentSession.lasting_minted.deleteAll session surroundings.now paths

/-- An operation that takes an identifier does not fail. -/
theorem takesId_of_error {error : StoreError} {after : DocumentSession}
    (ran : session.run surroundings op = .error (error, after)) : takesId op = false := by
  cases op with
  | create path document =>
    cases node : path.isNode with
    | false => rw [takesId, node, Bool.false_and]
    | true =>
      cases unnamed : document.id.isEmpty with
      | false => rw [takesId, unnamed, Bool.and_false]
      | true =>
        rw [DocumentSession.run, DocumentSession.create, requireNode, if_pos node,
          if_pos unnamed] at ran
        cases ran
  | _ => rfl

variable (session surroundings op) in
/-- Whether an operation succeeds or fails, the identifiers that it takes are counted. -/
theorem minted_state_run : (Outcome.state (session.run surroundings op)).minted =
    session.minted + (takesId op).toNat := by
  cases ran : session.run surroundings op with
  | ok outcome => exact minted_of_run ran
  | error outcome =>
    rw [takesId_of_error ran, Outcome.state, DocumentSession.eq_of_run_error ran]
    rfl

end

end Sql
end DocStore
