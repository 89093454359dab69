import DocStore.Proofs.Memory.Isolation

/-!
# Undoing a transaction on grants

The calls of one client, made one after the other in an open transaction, work on its session
and never change what a rollback leaves.  So a transaction on grants that is rolled back or
given up leaves the principals of every user and the grants on every path as they were when it
began (`SerialStore.grants_restored`).
-/

namespace DocStore

namespace Engine

variable {engine : Engine}

/-- No calls of a session change what a rollback leaves. -/
theorem View.content_undo_foldl (view : View engine) (session : engine.Session)
    (calls : List engine.Call) :
    view.content (engine.undo (calls.foldl perform session)) =
      view.content (engine.undo session) := by
  induction calls generalizing session with
  | nil => rfl
  | cons call rest ih =>
    rw [List.foldl_cons, ih]
    exact view.content_undo_run session call.1 call.2

end Engine

namespace SerialStore

variable {engine : Engine}

/-- The calls of one client as moves. -/
def asked (client : String) (calls : List engine.Call) : List (Move engine) :=
  calls.map fun call => .run client call.1 call.2

/-- The calls in an open transaction work on its session. -/
theorem session_play_asked {store : SerialStore engine} {client : String}
    {session : engine.Session} (opened : store.session client = .ok session)
    (calls : List engine.Call) :
    (store.play (asked client calls)).session client =
      .ok (calls.foldl Engine.perform session) := by
  induction calls generalizing store session with
  | nil => exact opened
  | cons call rest ih => exact ih (session_step_run opened call.1 call.2)

/-- Rolling a transaction on grants back, or giving it up, leaves the principals of every user
and the grants on every path as they were when it began, whatever was done in it. -/
theorem grants_restored {store : SerialStore grantEngine} {tables : GrantTables}
    (free : store.lock = .free tables) (client : String) (calls : List grantEngine.Call) :
    ∃ opened, store.begin client = .ok opened ∧
      (opened.play (asked client calls)).session client =
        .ok (calls.foldl Engine.perform (grantEngine.start tables)) ∧
      (∃ undone, (opened.play (asked client calls)).rollback client = .ok undone ∧
        undone.lock = .free tables) ∧
      ((opened.play (asked client calls)).drop client).2.lock = .free tables := by
  obtain ⟨opened, began, session⟩ := begin_of_free free client
  have worked := session_play_asked session calls
  have restored : grantEngine.undo (calls.foldl Engine.perform (grantEngine.start tables)) =
      tables :=
    (grantView.content_undo_foldl _ calls).trans (grantView.content_undo_start tables)
  refine ⟨opened, began, worked, ⟨_, rollback_of_session worked, ?_⟩, ?_⟩
  · exact congrArg Lock.free restored
  · rw [lock_drop_of_session worked, restored]

/-- A user loses its last principal and a path its last grant in a transaction that also
flushes the store and gives both to others: giving the transaction up brings them back. -/
theorem grants_restored_after_flush :
    let here : Surroundings := ⟨⟨0⟩, fun _ => ""⟩
    let store := (@SerialStore.start grantEngine GrantTables.empty).play
      [.begin "c", .run "c" here (.linkUsers "group" ["u"]),
        .run "c" here (.give "u" ⟨"read", ⟨"/a/b"⟩⟩), .commit "c"]
    let calls : List grantEngine.Call :=
      [(here, .unlinkUsers "group" ["u", "v"]),
        (here, .replaceAll ⟨"/a/b"⟩ (Dict.ofList [("read", [])])), (here, .flush),
        (here, .linkUsers "other" ["u", "v"]), (here, .give "v" ⟨"write", ⟨"/a/b"⟩⟩),
        (here, .takeBelow [⟨"/a"⟩]), (here, .size)]
    ∃ tables, store.lock = .free tables ∧ tables.size = 2 ∧
      ∃ opened, store.begin "d" = .ok opened ∧
        (opened.play (asked "d" calls)).session "d" =
          .ok (calls.foldl Engine.perform (grantEngine.start tables)) ∧
        (∃ undone, (opened.play (asked "d" calls)).rollback "d" = .ok undone ∧
          undone.lock = .free tables) ∧
        ((opened.play (asked "d" calls)).drop "d").2.lock = .free tables := by
  intro here store calls
  exact ⟨_, rfl, by decide +kernel, grants_restored rfl "d" calls⟩

end SerialStore
end DocStore
