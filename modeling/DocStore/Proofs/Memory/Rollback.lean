import DocStore.Proofs.Dict
import DocStore.Proofs.Memory.Effect
import DocStore.Proofs.Serial

/-!
# Undoing a session

What a rollback leaves is fixed when the session starts: every change of a session notes
the old content before it writes, and a flush keeps the old content as a whole, so
`DocumentSession.undo` gives the same holdings before and after each change.  A rolled
back transaction therefore leaves exactly what it began with.
-/

namespace DocStore

namespace Journal

variable {α : Type u}

/-- Restoring gives touched names what they held and leaves the others alone. -/
theorem find?_restore (journal : Journal α) (table : Dict α) (name : String) :
    (journal.restore table).find? name = (journal.find? name).getD (table.find? name) := by
  obtain ⟨entries, sorted⟩ := journal
  simp only [restore, Dict.find?]
  induction entries generalizing table with
  | nil => rfl
  | cons entry rest ih =>
    have absent := Assoc.Sorted.find?_tail sorted
    obtain ⟨_, tail⟩ := List.pairwise_cons.1 sorted
    rw [List.foldl_cons, ih _ tail, ← Dict.find?, Dict.find?_assign]
    by_cases same : entry.1 = name
    · rw [same] at absent
      simp [Assoc.find?, same, absent]
    · simp [Assoc.find?, same, Ne.symm same, Dict.find?]

theorem find?_record (journal : Journal α) (table : Dict α) (name other : String) :
    (journal.record table name).find? other =
      if other = name then some ((journal.find? name).getD (table.find? name))
      else journal.find? other := by
  unfold record Dict.contains
  cases noted : journal.find? name with
  | none =>
    rw [Option.isSome_none, if_neg Bool.false_ne_true, Dict.find?_insert]
    rfl
  | some old =>
    by_cases same : other = name <;> simp [same, noted]

/-- A change of a name that was recorded first is taken back by restoring. -/
theorem restore_record (journal : Journal α) {table changed : Dict α} {name : String}
    (others : ∀ other, other ≠ name → changed.find? other = table.find? other) :
    (journal.record table name).restore changed = journal.restore table := by
  refine Dict.ext fun other => ?_
  rw [find?_restore, find?_restore, find?_record]
  by_cases same : other = name
  · subst same
    simp
  · rw [if_neg same, others other same]

end Journal

namespace DocumentSession

/-! ## What writes leave -/

/-- Something about a session that stays when a collection is written that was touched first. -/
structure Lasting {β : Type} (kept : DocumentSession → β) : Prop where
  live : ∀ session name collection,
    kept ((session.touchLive name).setLive name collection) = kept session
  dead : ∀ session name collection,
    kept ((session.touchDead name).setDead name collection) = kept session

@[simp] theorem undo_start (holdings : Holdings) (minted : Nat) :
    (start holdings minted).undo = holdings := rfl

/-- Writing a collection that was touched first can be undone. -/
theorem lasting_undo : Lasting undo where
  live session name collection := by
    obtain ⟨holdings, liveJournal, deadJournal, flushed, minted⟩ := session
    cases flushed with
    | some snapshot => rfl
    | none =>
      simp only [undo, touchLive, setLive, Option.isSome_none, Bool.false_eq_true, if_false,
        Option.getD_none]
      rw [Journal.restore_record]
      intro other different
      rw [Dict.find?_insert, if_neg different]
  dead session name collection := by
    obtain ⟨holdings, liveJournal, deadJournal, flushed, minted⟩ := session
    cases flushed with
    | some snapshot => rfl
    | none =>
      simp only [undo, touchDead, setDead, Option.isSome_none, Bool.false_eq_true, if_false,
        Option.getD_none]
      rw [Journal.restore_record]
      intro other different
      split
      · rw [Dict.find?_erase, if_neg different]
      · rw [Dict.find?_insert, if_neg different]

/-- Writing a collection hands no identifier out. -/
theorem lasting_minted : Lasting minted where
  live session name collection := by
    unfold touchLive
    split <;> rfl
  dead session name collection := by
    unfold touchDead
    split <;> rfl

/-! ## Stores and burials -/

namespace Lasting

variable {β : Type} {kept : DocumentSession → β} (lasting : Lasting kept)
  (session : DocumentSession) (name : String) (now : Epoch)

include lasting

theorem unlinkDead (id : String) : kept (session.unlinkDead name id) = kept session := by
  unfold DocumentSession.unlinkDead
  split
  · rfl
  · split
    · rw [lasting.dead]
    · rfl

theorem store (document : Document) : kept (session.store name document now).2 = kept session :=
  (lasting.live _ name _).trans (lasting.unlinkDead session name document.id)

theorem bury (tombstone : Document) :
    kept (DocumentSession.bury name session tombstone) = kept session :=
  lasting.dead session name _

omit lasting in
/-- What no step of a fold changes is the same before and after the fold. -/
theorem foldl {α : Type} {f : DocumentSession → α → DocumentSession}
    (step : ∀ session item, kept (f session item) = kept session) (items : List α)
    (session : DocumentSession) : kept (items.foldl f session) = kept session := by
  induction items generalizing session with
  | nil => rfl
  | cons item rest ih => rw [List.foldl_cons, ih, step]

theorem buryAll (ids : List String) : kept (session.buryAll name ids now).2 = kept session := by
  simp only [DocumentSession.buryAll]
  rw [foldl (lasting.bury · name ·), lasting.live]

theorem buryBelow (path : Path) : kept (session.buryBelow path now) = kept session :=
  foldl (fun session name => lasting.buryAll session name now _) _ session

theorem buryAt (path : Path) : kept (session.buryAt path now).2 = kept session := by
  unfold DocumentSession.buryAt
  split
  · exact lasting.buryAll session path.collection now [path.documentId]
  · rfl

theorem delete (path : Path) (demanded : Bool) :
    kept (session.delete path now demanded).2 = kept session := by
  have buried := lasting.buryAt session now path
  simp only [DocumentSession.delete]
  split
  · exact buried
  · exact (lasting.buryBelow _ now path).trans buried

theorem deleteAll (paths : List Path) : kept (session.deleteAll now paths).2 = kept session := by
  induction paths generalizing session with
  | nil => rfl
  | cons path rest ih =>
    simp only [DocumentSession.deleteAll]
    split
    · exact ih session
    · have all := (ih _).trans (lasting.delete session now path false)
      split <;> exact all

theorem purge (olderThan : Epoch) : kept (session.purge olderThan).2 = kept session := by
  suffices general : ∀ (names : List String) (progress : Nat × DocumentSession),
      kept (names.foldl (purgeCollection olderThan) progress).2 = kept progress.2 from
    general _ (0, session)
  intro names
  induction names with
  | nil => exact fun _ => rfl
  | cons name rest ih =>
    intro progress
    rw [List.foldl_cons, ih]
    exact lasting.dead progress.2 name _

end Lasting

/-! ## Operations -/

section

variable {session after : DocumentSession} {surroundings : Surroundings} {op : DocumentOp}
  {answer : DocumentAnswer}

/-- No operation that succeeds changes what a rollback leaves. -/
theorem undo_of_run (ran : session.run surroundings op = .ok (answer, after)) :
    after.undo = session.undo := by
  cases effect_of_run ran with
  | read => rfl
  | flush => rfl
  | purge olderThan => exact lasting_undo.purge session olderThan
  | created => exact lasting_undo.store ..
  | minted path document named counted _ _ _ counting =>
    rw [lasting_undo.store, counting]
    rfl
  | updated => exact lasting_undo.store ..
  | deleted path _ tombstone _ found =>
    have kept := lasting_undo.delete session surroundings.now path true
    rwa [found] at kept
  | deletedAll paths => exact lasting_undo.deleteAll session surroundings.now paths

variable (session surroundings op) in
/-- Whether an operation succeeds or fails, a rollback leaves the same after it. -/
theorem undo_state_run : (Outcome.state (session.run surroundings op)).undo = session.undo := by
  cases ran : session.run surroundings op with
  | ok outcome => exact undo_of_run ran
  | error outcome => exact congrArg undo (eq_of_run_error ran)

end

end DocumentSession

namespace SerialStore

/-! ## Transactions -/

/-- A client's operations, one after the other. -/
def work (client : String) (operations : List (Surroundings × DocumentOp)) :
    List (Move documentEngine) :=
  operations.map fun operation => .run client operation.1 operation.2

/-- Within a transaction nothing changes what a rollback leaves. -/
theorem session_play_work {store : SerialStore documentEngine} {client : String}
    {session : DocumentSession} (open_ : store.session client = .ok session)
    (operations : List (Surroundings × DocumentOp)) :
    ∃ after, (store.play (work client operations)).session client = .ok after ∧
      after.undo = session.undo := by
  induction operations generalizing store session with
  | nil => exact ⟨session, open_, rfl⟩
  | cons operation rest ih =>
    obtain ⟨surroundings, op⟩ := operation
    obtain ⟨after, afterOpen, same⟩ := ih (session_step_run open_ surroundings op)
    exact ⟨after, afterOpen,
      same.trans (DocumentSession.undo_state_run session surroundings op)⟩

/-- Rolling a transaction back, or giving it up, leaves the live documents, the tombstones
and the epochs of every collection as they were when it began, whatever was done in it. -/
theorem rollback_exact {store : SerialStore documentEngine} {holdings : Holdings} {minted : Nat}
    (free : store.lock = .free (holdings, minted)) (client : String)
    (operations : List (Surroundings × DocumentOp)) :
    ∃ opened, store.begin client = .ok opened ∧
      (∃ undone later, (opened.play (work client operations)).rollback client = .ok undone ∧
        undone.lock = .free (holdings, later)) ∧
      ∃ later, ((opened.play (work client operations)).drop client).2.lock =
        .free (holdings, later) := by
  obtain ⟨opened, began, openedSession⟩ := begin_of_free free client
  obtain ⟨after, afterOpen, same⟩ := session_play_work openedSession operations
  have restored : after.undo = holdings := same.trans (DocumentSession.undo_start holdings minted)
  refine ⟨opened, began, ⟨_, after.minted, rollback_of_session afterOpen, ?_⟩, after.minted, ?_⟩
  · rw [← restored]
    rfl
  · rw [lock_drop_of_session afterOpen, ← restored]
    rfl

/-- A document is kept and then deleted in a transaction that also flushes the store and
stores another document: giving the transaction up brings the document back. -/
theorem rollback_exact_after_flush :
    let store := (@SerialStore.start documentEngine (Holdings.empty, 0)).play
      [.begin "c", .run "c" ⟨⟨5⟩, fun _ => "x"⟩ (.create ⟨"/a/*"⟩ (Document.withId "one")),
        .commit "c"]
    let operations : List (Surroundings × DocumentOp) :=
      [(⟨⟨3⟩, fun _ => "x"⟩, .delete ⟨"/a/one"⟩), (⟨⟨4⟩, fun _ => "x"⟩, .flush),
        (⟨⟨-1⟩, fun _ => "x"⟩, .create ⟨"/a/*"⟩ (Document.withId "two"))]
    ∃ holdings minted, store.lock = .free (holdings, minted) ∧
      (holdings.live.find? "/a" "one").isSome = true ∧
      ∃ opened, store.begin "d" = .ok opened ∧
        (∃ undone later, (opened.play (work "d" operations)).rollback "d" = .ok undone ∧
          undone.lock = .free (holdings, later)) ∧
        ∃ later, ((opened.play (work "d" operations)).drop "d").2.lock =
          .free (holdings, later) := by
  intro store operations
  exact ⟨_, _, rfl, by decide +kernel, rollback_exact rfl "d" operations⟩

end SerialStore
end DocStore
