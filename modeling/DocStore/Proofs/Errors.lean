import DocStore.Memory.Serial
import DocStore.Proofs.Memory.Effect
import DocStore.Sql.Documents
import DocStore.Sql.Grants

/-!
# Errors of operations

Once the transaction of an operation is found open, the operation fails for reasons of its
own: a path of the wrong kind, a document that is missing or in the way, or a server that
refuses a statement, sends what cannot be read or is silent.  In particular, whatever a
server replies, a conversation never ends as if its transaction were over.
-/

namespace DocStore

/-- Whether an operation of an open transaction can fail with an error. -/
def StoreError.ofOperation : StoreError → Bool
  | notFound _ | alreadyExists _ | invalidPath _ | query _ | serialization _ | timeout _ _ => true
  | _ => false

theorem ofOperation_of_requireNode {path : Path} {error : StoreError}
    (failed : requireNode path = .error error) : error.ofOperation = true := by
  unfold requireNode at failed
  split at failed <;> cases failed
  rfl

theorem ofOperation_of_requireLeaf {path : Path} {error : StoreError}
    (failed : requireLeaf path = .error error) : error.ofOperation = true := by
  unfold requireLeaf at failed
  split at failed <;> cases failed
  rfl

/-! ## In memory -/

theorem DocumentSession.ofOperation_of_run {session after : DocumentSession}
    {surroundings : Surroundings} {op : DocumentOp} {error : StoreError}
    (failed : session.run surroundings op = .error (error, after)) :
    error.ofOperation = true := by
  cases op with
  | flush | purge | deleteAll | size => cases failed
  | latestEpoch | list | count =>
    obtain ⟨wrong, _⟩ | ⟨_, read⟩ := error_of_checked failed
    · exact ofOperation_of_requireNode wrong
    · cases read
  | «exists» | update =>
    obtain ⟨wrong, _⟩ | ⟨_, done⟩ := error_of_checked failed
    · exact ofOperation_of_requireLeaf wrong
    · cases done
  | get path | getForUpdate path | delete path =>
    obtain ⟨wrong, _⟩ | ⟨_, missing⟩ := error_of_checked failed
    · exact ofOperation_of_requireLeaf wrong
    · split at missing <;> cases missing
      rfl
  | create path document =>
    obtain ⟨wrong, _⟩ | ⟨_, taken⟩ := error_of_checked failed
    · exact ofOperation_of_requireNode wrong
    · dsimp only at taken
      split at taken
      · cases taken
      · split at taken <;> cases taken
        rfl

/-! ## On a server -/

namespace Sql
namespace Conversation

variable {ε α β : Type} {allowed : ε → Prop}

/-- Whatever the replies are, an error in which the conversation ends is an allowed one. -/
def FailsOnly (allowed : ε → Prop) : Conversation ε α → Prop
  | finish result => ∀ error, result = .error error → allowed error
  | ask _ next => ∀ reply, FailsOnly allowed (next reply)

theorem failsOnly_pure (value : α) : FailsOnly allowed (pure value : Conversation ε α) :=
  fun _ failed => nomatch failed

theorem failsOnly_fail {error : ε} (isAllowed : allowed error) :
    FailsOnly allowed (fail error : Conversation ε α) := by
  rintro _ ⟨⟩
  exact isAllowed

theorem FailsOnly.bind {conversation : Conversation ε α} {next : α → Conversation ε β}
    (first : conversation.FailsOnly allowed) (later : ∀ value, (next value).FailsOnly allowed) :
    (conversation >>= next).FailsOnly allowed := by
  induction conversation with
  | finish result =>
    cases result with
    | ok value => exact later value
    | error error => exact failsOnly_fail (first error rfl)
  | ask message answer ih => exact fun reply => ih reply (first reply)

/-- The end of a conversation that is held with a server. -/
theorem FailsOnly.holdWith {σ : Type} {server : σ → Message → Reply × σ} {state : σ}
    {conversation : Conversation ε α} (only : conversation.FailsOnly allowed) {error : ε}
    (failed : (conversation.holdWith server state).1 = .error error) : allowed error := by
  induction conversation generalizing state with
  | finish result => exact only error failed
  | ask message answer ih => exact ih _ (only _) failed

theorem failsOnly_send {allowed : StoreError → Prop} {error : String → StoreError}
    (isAllowed : ∀ text, allowed (error text)) (message : Message) :
    (send error message).FailsOnly allowed := by
  intro reply
  cases reply with
  | done rows affected => exact failsOnly_pure _
  | refused text => exact failsOnly_fail (isAllowed _)
  | silence => exact failsOnly_fail (isAllowed _)

/-! ## Talks -/

/-- A talk that fails for reasons of an operation. -/
abbrev OfOperation (talk : Talk α) : Prop := talk.FailsOnly fun error => error.ofOperation = true

theorem FailsOnly.within {talk : Talk α} (only : talk.OfOperation) (operation : String)
    (limit : Nat) : (talk.within operation limit).OfOperation := by
  induction talk with
  | finish result => exact only
  | ask message answer ih =>
    unfold Conversation.within
    intro reply
    cases reply with
    | silence => exact failsOnly_fail rfl
    | done rows affected => exact ih _ (only _)
    | refused text => exact ih _ (only _)

theorem ofOperation_send (task : String) (message : Message) :
    (send (queryError task) message).OfOperation := by
  refine failsOnly_send (fun text => ?_) message
  rfl

theorem ofOperation_execute (task : String) (statement : Statement) :
    (execute task statement).OfOperation :=
  (ofOperation_send _ _).bind fun _ => failsOnly_pure _

theorem ofOperation_readOrFail (task : String) (read : Except String α) :
    (readOrFail task read).OfOperation := by
  cases read with
  | ok value => exact failsOnly_pure value
  | error cause => exact failsOnly_fail rfl

variable (task : String) (read : Row → Except String α) (statement : Statement)

theorem ofOperation_fetchAll : (fetchAll task read statement).OfOperation :=
  (ofOperation_send _ _).bind fun _ => ofOperation_readOrFail _ _

theorem ofOperation_fetchFirst : (fetchFirst task read statement).OfOperation := by
  refine (ofOperation_send _ _).bind fun done => ?_
  cases done.1 with
  | nil => exact failsOnly_pure _
  | cons row rest => exact (ofOperation_readOrFail _ _).bind fun _ => failsOnly_pure _

theorem ofOperation_fetchOne (path : String) : (fetchOne task path read statement).OfOperation := by
  refine (ofOperation_fetchFirst task read statement).bind fun found => ?_
  cases found with
  | some value => exact failsOnly_pure value
  | none => exact failsOnly_fail rfl

end Conversation

open Conversation

/-! ## Documents -/

theorem ofOperation_of_readDocument {row : Row} {error : StoreError}
    (failed : readDocument row = .error error) : error.ofOperation = true := by
  unfold readDocument at failed
  split at failed <;> cases failed
  rfl

/-- The error of a list is the error of one of its items. -/
theorem error_of_mapM {ε α β : Type} {read : α → Except ε β} {items : List α} {error : ε}
    (failed : items.mapM read = .error error) : ∃ item ∈ items, read item = .error error := by
  induction items with
  | nil => cases failed
  | cons item rest ih =>
    rw [List.mapM_cons] at failed
    cases first : read item with
    | error other =>
      rw [first] at failed
      cases failed
      exact ⟨item, List.mem_cons_self, first⟩
    | ok value =>
      cases later : rest.mapM read with
      | ok values => rw [first, later] at failed; cases failed
      | error other =>
        rw [first, later] at failed
        cases failed
        obtain ⟨wrong, member, cause⟩ := ih later
        exact ⟨wrong, List.mem_cons_of_mem item member, cause⟩

theorem ofOperation_nextEpoch (collection : String) (now : Epoch) :
    (nextEpoch collection now).OfOperation :=
  (ofOperation_fetchOne _ _ _ _).bind fun _ => failsOnly_pure _

theorem ofOperation_fetchDocument (path : Path) (locking : Bool) :
    (fetchDocument path locking).OfOperation :=
  (ofOperation_fetchOne _ _ _ _).bind fun _ _ => ofOperation_of_readDocument

theorem ofOperation_isLive (collection id : String) : (isLive collection id).OfOperation :=
  (ofOperation_fetchFirst _ _ _).bind fun _ => failsOnly_pure _

theorem ofOperation_create (path : Path) (document : Document) (fresh : String) (now : Epoch) :
    (create path document fresh now).OfOperation := by
  have inserted : ∀ named : Document,
      (do
        let modified ← nextEpoch path.collection now
        let created ← fetchFirst "create object" (single intCell)
          (insertDocument path.collection named modified)
        if created.isNone then fail (alreadyLive path named.id)
        return { named with modified, deleted := false } : Talk Document).OfOperation := by
    intro named
    refine (ofOperation_nextEpoch _ _).bind fun modified =>
      (ofOperation_fetchFirst _ _ _).bind fun created => ?_
    cases created with
    | none => exact failsOnly_fail rfl
    | some stored => exact failsOnly_pure _
  unfold create
  cases document.id.isEmpty with
  | true => exact inserted _
  | false =>
    refine (ofOperation_isLive _ _).bind fun live => ?_
    cases live with
    | true => exact failsOnly_fail rfl
    | false => exact inserted _

theorem ofOperation_update (handle : Handle) (now : Epoch) : (update handle now).OfOperation :=
  (ofOperation_nextEpoch _ _).bind fun _ =>
    (ofOperation_execute _ _).bind fun _ => failsOnly_pure _

theorem ofOperation_bury (collection id : String) (now : Epoch) :
    (bury collection id now).OfOperation :=
  (ofOperation_nextEpoch _ _).bind fun _ =>
    (ofOperation_execute _ _).bind fun _ => failsOnly_pure _

theorem ofOperation_buryEach (now : Epoch) (keys : List (String × String)) :
    (buryEach now keys).OfOperation := by
  induction keys with
  | nil => exact failsOnly_pure ()
  | cons key rest ih => exact (ofOperation_bury _ _ _).bind fun _ => ih

theorem ofOperation_buryAt (path : Path) (now : Epoch) : (buryAt path now).OfOperation := by
  refine (ofOperation_fetchFirst _ _ _).bind fun found => ?_
  cases found with
  | some data => exact (ofOperation_bury _ _ _).bind fun _ => failsOnly_pure _
  | none => exact failsOnly_pure none

theorem ofOperation_delete (path : Path) (now : Epoch) (demanded : Bool) :
    (delete path now demanded).OfOperation := by
  refine (ofOperation_buryAt path now).bind fun tombstone => ?_
  split
  · exact failsOnly_pure none
  · exact ((ofOperation_fetchAll _ _ _).bind fun _ => ofOperation_buryEach _ _).bind fun _ =>
      failsOnly_pure tombstone

theorem ofOperation_deleteAll (now : Epoch) (paths : List Path) :
    (deleteAll now paths).OfOperation := by
  induction paths with
  | nil => exact failsOnly_pure _
  | cons path rest ih =>
    unfold deleteAll
    split
    · exact ih
    · refine (ofOperation_delete path now false).bind fun tombstone => ih.bind fun later => ?_
      cases tombstone with
      | some tombstone => exact failsOnly_pure _
      | none => exact failsOnly_pure _

theorem ofOperation_list (path : Path) (options : ListingOptions) :
    (list path options).OfOperation :=
  (ofOperation_fetchAll _ _ _).bind fun _ _ failed =>
    have ⟨_, _, cause⟩ := error_of_mapM failed
    ofOperation_of_readDocument cause

theorem ofOperation_documentExchange (now : Epoch) (fresh : String) (op : DocumentOp) :
    (documentExchange now fresh op).OfOperation := by
  cases op with
  | flush => exact (ofOperation_execute _ _).bind fun _ => failsOnly_pure _
  | purge olderThan => exact (ofOperation_execute _ _).bind fun _ => failsOnly_pure _
  | latestEpoch path => exact (ofOperation_fetchFirst _ _ _).bind fun _ => failsOnly_pure _
  | «exists» path => exact (ofOperation_isLive _ _).bind fun _ => failsOnly_pure _
  | get path => exact (ofOperation_fetchDocument _ _).bind fun _ => failsOnly_pure _
  | getForUpdate path => exact (ofOperation_fetchDocument _ _).bind fun _ => failsOnly_pure _
  | create path document => exact (ofOperation_create _ _ _ _).bind fun _ => failsOnly_pure _
  | update handle => exact (ofOperation_update _ _).bind fun _ => failsOnly_pure _
  | delete path =>
    refine (ofOperation_delete path now true).bind fun tombstone => ?_
    cases tombstone with
    | some tombstone => exact failsOnly_pure _
    | none => exact failsOnly_fail rfl
  | list path options => exact (ofOperation_list _ _).bind fun _ => failsOnly_pure _
  | count path condition => exact (ofOperation_fetchOne _ _ _ _).bind fun _ => failsOnly_pure _
  | deleteAll paths => exact (ofOperation_deleteAll _ _).bind fun _ => failsOnly_pure _
  | size => exact (ofOperation_fetchOne _ _ _ _).bind fun _ => failsOnly_pure _

theorem ofOperation_of_checkPath {op : DocumentOp} {error : StoreError}
    (failed : checkPath op = .error error) : error.ofOperation = true := by
  cases op with
  | latestEpoch | create | list | count => exact ofOperation_of_requireNode failed
  | «exists» | get | getForUpdate | update | delete => exact ofOperation_of_requireLeaf failed
  | flush | purge | deleteAll | size => cases failed

/-- An operation on documents fails for reasons of its own, whatever the server replies. -/
theorem ofOperation_documentTalk (limit : Nat) (now : Epoch) (fresh : String) (op : DocumentOp) :
    (documentTalk limit now fresh op).OfOperation := by
  unfold documentTalk
  cases checked : checkPath op with
  | ok => exact (ofOperation_documentExchange now fresh op).within _ _
  | error error => exact failsOnly_fail (ofOperation_of_checkPath checked)

/-! ## Grants -/

theorem ofOperation_give (path : Path) (entries : List (String × String)) :
    (give path entries).OfOperation := by
  cases entries with
  | nil => exact failsOnly_pure ()
  | cons => exact (ofOperation_execute _ _).bind fun _ => failsOnly_pure _

theorem ofOperation_grantExchange (op : GrantOp) : (grantExchange op).OfOperation := by
  cases op with
  | flush => exact (ofOperation_execute _ _).bind fun _ => failsOnly_pure _
  | userPrincipals user => exact (ofOperation_fetchAll _ _ _).bind fun _ => failsOnly_pure _
  | linkUsers principal users =>
    cases users with
    | nil => exact failsOnly_pure _
    | cons => exact (ofOperation_execute _ _).bind fun _ => failsOnly_pure _
  | unlinkUsers principal users =>
    exact (ofOperation_execute _ _).bind fun _ => failsOnly_pure _
  | purgePrincipals principals =>
    exact (ofOperation_execute _ _).bind fun _ => failsOnly_pure _
  | principalsOf grant => exact (ofOperation_fetchAll _ _ _).bind fun _ => failsOnly_pure _
  | give principal grant => exact (ofOperation_give _ _).bind fun _ => failsOnly_pure _
  | take principal grant => exact (ofOperation_execute _ _).bind fun _ => failsOnly_pure _
  | principalsOfAny grants =>
    cases grants with
    | nil => exact failsOnly_pure _
    | cons => exact (ofOperation_fetchAll _ _ _).bind fun _ => failsOnly_pure _
  | grantsOn path => exact (ofOperation_fetchAll _ _ _).bind fun _ => failsOnly_pure _
  | giveAll path set => exact (ofOperation_give _ _).bind fun _ => failsOnly_pure _
  | replaceAll path set =>
    simp only [grantExchange]
    split
    · exact failsOnly_pure _
    · exact (ofOperation_execute _ _).bind fun _ =>
        (ofOperation_give _ _).bind fun _ => failsOnly_pure _
  | takeBelow paths =>
    cases paths with
    | nil => exact failsOnly_pure _
    | cons => exact (ofOperation_execute _ _).bind fun _ => failsOnly_pure _
  | accessiblePaths principals grants =>
    cases principals <;> cases grants
    case cons.cons => exact (ofOperation_fetchAll _ _ _).bind fun _ => failsOnly_pure _
    all_goals exact failsOnly_pure _
  | size => exact (ofOperation_fetchOne _ _ _ _).bind fun _ => failsOnly_pure _

/-- An operation on grants fails for reasons of its own, whatever the server replies. -/
theorem ofOperation_grantTalk (limit : Nat) (op : GrantOp) : (grantTalk limit op).OfOperation :=
  (ofOperation_grantExchange op).within _ _

end Sql
end DocStore
