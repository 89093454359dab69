import Mathlib.Logic.Relation
import DocStore.Proofs.Memory.Rollback
import DocStore.Memory.Grants

/-!
# Edits of grants

Every operation on grants comes down to edits: one user's principals or one path's grants
change, a path loses its grants, or everything is erased.  `edits_of_run` is the one place
where the operations are taken apart for that.

No edit changes what a rollback leaves, and no edit leaves an empty set of principals or an
empty map of permissions behind (`GrantTables.Tidy`); so the same holds for operations and for
runs of a store.
-/

namespace DocStore

/-- Nothing empty is kept: no set of principals and no map of permissions. -/
structure GrantTables.Tidy (tables : GrantTables) : Prop where
  /-- Users that are kept have a principal. -/
  users : ∀ user principals, tables.users.find? user = some principals →
    principals.isEmpty = false
  /-- Paths that are kept have a permission. -/
  paths : ∀ path grants, tables.paths.find? path = some grants → grants.isEmpty = false
  /-- Permissions that are kept have a principal. -/
  permissions : ∀ path grants permission principals, tables.paths.find? path = some grants →
    grants.find? permission = some principals → principals.isEmpty = false

theorem GrantTables.tidy_empty : GrantTables.empty.Tidy where
  users _ _ found := by cases found
  paths _ _ found := by cases found
  permissions _ _ _ _ found := by cases found

namespace GrantSession

/-! ## Single edits -/

@[simp] theorem tables_touchUser (session : GrantSession) (user : String) :
    (session.touchUser user).tables = session.tables := by
  unfold touchUser
  split <;> rfl

@[simp] theorem tables_touchPath (session : GrantSession) (path : String) :
    (session.touchPath path).tables = session.tables := by
  unfold touchPath
  split <;> rfl

theorem tables_editUser (session : GrantSession) (change : NameSet → NameSet) (user : String) :
    (session.editUser change user).tables =
      { session.tables with
        users := session.tables.users.assign user
          (nonempty (change ((session.tables.users.find? user).getD Dict.empty))) } := by
  simp [editUser]

theorem tables_editPath (session : GrantSession) (change : PathGrants → PathGrants)
    (path : String) : (session.editPath change path).tables =
      { session.tables with
        paths := session.tables.paths.assign path
          (nonempty ((change ((session.tables.paths.find? path).getD Dict.empty)).filter
            fun _ principals => !principals.isEmpty)) } := by
  simp [editPath]

theorem tables_drop (session : GrantSession) (path : String) :
    (session.drop path).tables =
      { session.tables with paths := session.tables.paths.erase path } := by
  simp [drop]

/-- A change of a session at one place. -/
inductive Edit (session : GrantSession) : GrantSession → Prop
  /-- The principals of a user change. -/
  | user (change user) : Edit session (session.editUser change user)
  /-- The grants on a path change. -/
  | path (change path) : Edit session (session.editPath change path)
  /-- A path loses its grants. -/
  | drop (path) : Edit session (session.drop path)
  /-- Everything is erased. -/
  | flush : Edit session session.flush

/-- Edits, one after the other. -/
abbrev Edits : GrantSession → GrantSession → Prop := Relation.ReflTransGen Edit

theorem Edit.single {session after : GrantSession} (edit : Edit session after) :
    Edits session after :=
  Relation.ReflTransGen.single edit

theorem edits_foldl {α : Type} {f : GrantSession → α → GrantSession}
    (step : ∀ session item, Edits session (f session item)) (items : List α)
    (session : GrantSession) : Edits session (items.foldl f session) := by
  induction items generalizing session with
  | nil => exact .refl
  | cons item rest ih => exact (step session item).trans (ih _)

theorem edits_unlink (principal : String) (session : GrantSession) (user : String) :
    Edits session (unlink principal session user) := by
  unfold unlink
  split
  · exact (Edit.user _ user).single
  · exact .refl

/-- Every operation comes down to edits. -/
theorem edits_of_run (session : GrantSession) (op : GrantOp) :
    Edits session (session.run op).2 := by
  cases op with
  | flush => exact Edit.flush.single
  | linkUsers principal users =>
    exact edits_foldl (fun session user => (Edit.user _ user).single) users session
  | unlinkUsers principal users => exact edits_foldl (edits_unlink principal) users session
  | purgePrincipals principals =>
    simp only [run]
    split
    · exact .refl
    · exact edits_foldl (fun session user => (Edit.user _ user).single) _ session
  | takeBelow roots => exact edits_foldl (fun session path => (Edit.drop path).single) _ session
  | give principal grant =>
    exact (Edit.path (addTo · (grant.permission, [principal])) grant.path.text).single
  | take principal grant =>
    simp only [run]
    split
    · exact (Edit.path (fun grants => grants.insert grant.permission
        (((grants.find? grant.permission).getD Dict.empty).erase principal))
        grant.path.text).single
    · exact .refl
  | giveAll path set =>
    simp only [run]
    split
    · exact .refl
    · exact (Edit.path (set.entries.foldl addTo ·) path.text).single
  | replaceAll path set =>
    simp only [run]
    split
    · exact .refl
    · exact (Edit.path (set.entries.foldl replace ·) path.text).single
  | userPrincipals _ | principalsOf _ | principalsOfAny _ | grantsOn _ | accessiblePaths _ _
  | size => exact .refl

/-! ## Undoing -/

@[simp] theorem undo_startGrants (tables : GrantTables) : (start tables).undo = tables := rfl

/-- What was noted before an edit can be restored after it. -/
theorem undo_of_edit {session after : GrantSession} (edit : Edit session after) :
    after.undo = session.undo := by
  obtain ⟨tables, userJournal, pathJournal, flushed⟩ := session
  cases edit with
  | flush => rfl
  | user change user =>
    cases flushed with
    | some snapshot => rfl
    | none =>
      simp only [undo, editUser, touchUser, Option.isSome_none, Bool.false_eq_true, if_false,
        Option.getD_none]
      rw [Journal.restore_record]
      intro other different
      rw [Dict.find?_assign, if_neg different]
  | path change path =>
    cases flushed with
    | some snapshot => rfl
    | none =>
      simp only [undo, editPath, touchPath, Option.isSome_none, Bool.false_eq_true, if_false,
        Option.getD_none]
      rw [Journal.restore_record]
      intro other different
      rw [Dict.find?_assign, if_neg different]
  | drop path =>
    cases flushed with
    | some snapshot => rfl
    | none =>
      simp only [undo, drop, touchPath, Option.isSome_none, Bool.false_eq_true, if_false,
        Option.getD_none]
      rw [Journal.restore_record]
      intro other different
      rw [Dict.find?_erase, if_neg different]

theorem undo_of_edits {session after : GrantSession} (edits : Edits session after) :
    after.undo = session.undo := by
  induction edits with
  | refl => rfl
  | tail _ edit ih => exact (undo_of_edit edit).trans ih

/-- No operation changes what a rollback leaves. -/
theorem undo_run (session : GrantSession) (op : GrantOp) :
    (session.run op).2.undo = session.undo :=
  undo_of_edits (edits_of_run session op)

/-! ## Tidiness -/

theorem isEmpty_of_nonempty {α : Type} {dict kept : Dict α} (found : nonempty dict = some kept) :
    kept = dict ∧ kept.isEmpty = false := by
  unfold nonempty at found
  split at found
  · cases found
  · rename_i filled
    cases found
    exact ⟨rfl, by simpa using filled⟩

theorem tidy_of_edit {session after : GrantSession} (edit : Edit session after)
    (tidy : session.tables.Tidy) : after.tables.Tidy := by
  cases edit with
  | flush => exact GrantTables.tidy_empty
  | user change user =>
    rw [tables_editUser]
    refine { tidy with users := fun other principals found => ?_ }
    rw [Dict.find?_assign] at found
    split at found
    · exact (isEmpty_of_nonempty found).2
    · exact tidy.users other principals found
  | path change path =>
    rw [tables_editPath]
    refine ⟨tidy.users, fun other grants found => ?_,
      fun other grants permission principals found held => ?_⟩
    all_goals rw [Dict.find?_assign] at found; split at found
    · exact (isEmpty_of_nonempty found).2
    · exact tidy.paths other grants found
    · rw [(isEmpty_of_nonempty found).1, Dict.find?_filter, Option.filter_eq_some_iff] at held
      simpa using held.2
    · exact tidy.permissions other grants permission principals found held
  | drop path =>
    rw [tables_drop]
    refine ⟨tidy.users, fun other grants found => ?_,
      fun other grants permission principals found held => ?_⟩
    all_goals rw [Dict.find?_erase] at found; split at found
    · cases found
    · exact tidy.paths other grants found
    · cases found
    · exact tidy.permissions other grants permission principals found held

theorem tidy_of_edits {session after : GrantSession} (edits : Edits session after)
    (tidy : session.tables.Tidy) : after.tables.Tidy := by
  induction edits with
  | refl => exact tidy
  | tail _ edit ih => exact tidy_of_edit edit ih

/-- No operation leaves anything empty behind. -/
theorem tidy_run {session : GrantSession} (tidy : session.tables.Tidy) (op : GrantOp) :
    (session.run op).2.tables.Tidy :=
  tidy_of_edits (edits_of_run session op) tidy

end GrantSession

namespace SerialStore

/-- What a store of grants holds at the moment, committed or not. -/
def tables (store : SerialStore grantEngine) : GrantTables :=
  match store.lock with
  | .free tables => tables
  | .held _ session => GrantSession.tables session

/-- The tables of a store whose open transaction has a session. -/
theorem tables_of_session {store : SerialStore grantEngine} {client : String}
    {session : GrantSession} (opened : store.session client = .ok session) :
    store.tables = session.tables := by
  unfold tables
  rw [lock_of_session opened]

/-- A lock behind which nothing empty is kept, nor comes back by a rollback. -/
def TidyLock : Lock grantEngine → Prop
  | .free tables => GrantTables.Tidy tables
  | .held _ session =>
    (GrantSession.tables session).Tidy ∧ (GrantSession.undo session).Tidy

theorem tidyLock_of_transition {move : Move grantEngine} {lock next : Lock grantEngine}
    {past future : History Unit}
    (transition : Transition (fun _ _ _ => []) move lock past next future)
    (tidy : TidyLock lock) : TidyLock next := by
  cases transition with
  | idle => exact tidy
  | begun client tables => exact ⟨tidy, tidy⟩
  | worked client surroundings op session =>
    have origin := GrantSession.undo_run session op
    exact ⟨GrantSession.tidy_run tidy.1 op, origin.symm ▸ tidy.2⟩
  | committed client session => exact tidy.1
  | undone move client session => exact tidy.2

/-- Whatever is asked of a store of grants, nothing empty is kept. -/
theorem tidy_play (moves : List (Move grantEngine)) :
    TidyLock ((@SerialStore.start grantEngine GrantTables.empty).play moves).lock :=
  @invariant_play _ _ _ (fun lock _ => TidyLock lock) _ History.empty _ GrantTables.tidy_empty
    fun _ _ => tidyLock_of_transition

end SerialStore
end DocStore
