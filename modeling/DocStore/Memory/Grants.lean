import DocStore.Memory.Journal
import DocStore.Store.Grants

/-!
# Grants in memory

Links are kept by user and grants by path.  A session notes in journals what it
changes; neither a user without principals nor a path without grants is kept.
-/

namespace DocStore

/-- The principals of the permissions on one path. -/
abbrev PathGrants := Dict NameSet

/-- Everything that a store of grants holds. -/
structure GrantTables where
  /-- The principals linked to each user. -/
  users : Dict NameSet
  /-- The grants on each path. -/
  paths : Dict PathGrants

namespace GrantTables

/-- The store without content. -/
def empty : GrantTables := ⟨Dict.empty, Dict.empty⟩

instance : Inhabited GrantTables := ⟨empty⟩

/-- The principals linked to a user. -/
def linked (tables : GrantTables) (user : String) : List String :=
  ((tables.users.find? user).map Dict.keys).getD []

/-- The principals that have a grant. -/
def principalsOf? (tables : GrantTables) (grant : Grant) : Option NameSet :=
  (tables.paths.find? grant.path.text).bind (·.find? grant.permission)

/-- The principals of a user: itself and those linked to it, and the shared ones that it has
with those linked to them. -/
def userPrincipals (tables : GrantTables) (user : String) : List String :=
  let own := (NameSet.ofNames (tables.linked user)).add user
  let all :=
    if user = everyone then own
    else if user = authenticated then (own.add everyone).addAll (tables.linked everyone)
    else
      (((own.add authenticated).add everyone).addAll (tables.linked authenticated)).addAll
        (tables.linked everyone)
  all.keys

/-- The principals of a path's grants that match one of the given ones. -/
def matching (grants : List Grant) (entry : String × PathGrants) : List String :=
  (grants.filter fun grant => grant.path.contains ⟨entry.1⟩).flatMap fun grant =>
    ((entry.2.find? grant.permission).map Dict.keys).getD []

/-- The principals that have a grant matched by one of the given ones. -/
def principalsOfAny (tables : GrantTables) (grants : List Grant) : List String :=
  (NameSet.ofNames (tables.paths.entries.flatMap (matching grants))).keys

/-- Whether one of the principals has one of the path's grants that match. -/
def isAccessible (principals : List String) (grants : List Grant)
    (entry : String × PathGrants) : Bool :=
  entry.2.entries.any fun permitted =>
    (grants.any fun grant =>
      grant.permission == permitted.1 && grant.path.contains ⟨entry.1⟩) &&
      principals.any permitted.2.contains

/-- The paths on which one of the principals has a matching grant. -/
def accessiblePaths (tables : GrantTables) (principals : List String) (grants : List Grant) :
    List String :=
  if principals.isEmpty || grants.isEmpty then []
  else (tables.paths.entries.filter (isAccessible principals grants)).map (·.1)

/-- How many links and grants there are. -/
def size (tables : GrantTables) : Nat :=
  (tables.users.values.map Dict.size).foldr (· + ·) 0 +
    (tables.paths.values.flatMap fun grants => grants.values.map Dict.size).foldr (· + ·) 0

end GrantTables

/-- The work of one transaction. -/
structure GrantSession where
  /-- What the store holds now. -/
  tables : GrantTables
  /-- What touched users were linked to before. -/
  userJournal : Journal NameSet
  /-- What the grants on touched paths were before. -/
  pathJournal : Journal PathGrants
  /-- What the store held before the first flush. -/
  flushed : Option GrantTables

namespace GrantSession

/-- The start of a transaction. -/
def start (tables : GrantTables) : GrantSession := ⟨tables, Dict.empty, Dict.empty, none⟩

/-- Notes what a user is linked to, before it changes. -/
def touchUser (session : GrantSession) (user : String) : GrantSession :=
  if session.flushed.isSome then session
  else { session with userJournal := session.userJournal.record session.tables.users user }

/-- Notes what the grants on a path are, before they change. -/
def touchPath (session : GrantSession) (path : String) : GrantSession :=
  if session.flushed.isSome then session
  else { session with pathJournal := session.pathJournal.record session.tables.paths path }

/-- A value, or nothing where it has no entries. -/
def nonempty {α : Type} (dict : Dict α) : Option (Dict α) := if dict.isEmpty then none else some dict

/-- Changes the principals of a user. -/
def editUser (change : NameSet → NameSet) (session : GrantSession) (user : String) :
    GrantSession :=
  let principals := change ((session.tables.users.find? user).getD Dict.empty)
  let session := session.touchUser user
  { session with
    tables := { session.tables with
      users := session.tables.users.assign user (nonempty principals) } }

/-- Changes the grants on a path; permissions without principals are dropped. -/
def editPath (change : PathGrants → PathGrants) (session : GrantSession) (path : String) :
    GrantSession :=
  let grants := change ((session.tables.paths.find? path).getD Dict.empty)
  let kept := grants.filter fun _ principals => !principals.isEmpty
  let session := session.touchPath path
  { session with
    tables := { session.tables with
      paths := session.tables.paths.assign path (nonempty kept) } }

/-- Removes principals from a set. -/
def without (names : NameSet) (principals : List String) : NameSet :=
  principals.foldl Dict.erase names

/-- Adds principals to a permission. -/
def addTo (grants : PathGrants) (entry : String × List String) : PathGrants :=
  grants.insert entry.1 (((grants.find? entry.1).getD Dict.empty).addAll entry.2)

/-- Gives a permission exactly the principals. -/
def replace (grants : PathGrants) (entry : String × List String) : PathGrants :=
  grants.insert entry.1 (NameSet.ofNames entry.2)

/-- Unlinks a user, if it is linked to anything. -/
def unlink (principal : String) (session : GrantSession) (user : String) : GrantSession :=
  if session.tables.users.contains user then
    session.editUser (·.erase principal) user
  else session

/-- The users that are linked to one of the principals. -/
def usersOf (session : GrantSession) (principals : List String) : List String :=
  (session.tables.users.entries.filter fun entry => principals.any entry.2.contains).map (·.1)

/-- Takes all grants on a path. -/
def drop (session : GrantSession) (path : String) : GrantSession :=
  let session := session.touchPath path
  { session with
    tables := { session.tables with paths := session.tables.paths.erase path } }

/-- The paths with grants that are one of the roots or lie below one. -/
def pathsBelow (session : GrantSession) (roots : List Path) : List String :=
  session.tables.paths.keys.filter fun path => roots.any fun root => isAtOrBelow root ⟨path⟩

/-- Empties the store. -/
def flush (session : GrantSession) : GrantSession :=
  { session with
    tables := GrantTables.empty
    flushed := some (session.flushed.getD session.tables) }

/-- Undoes the session. -/
def undo (session : GrantSession) : GrantTables :=
  let base := session.flushed.getD session.tables
  ⟨session.userJournal.restore base.users, session.pathJournal.restore base.paths⟩

/-- Runs one operation, none of which fails. -/
def run (session : GrantSession) : GrantOp → GrantAnswer × GrantSession
  | .flush => (.done, session.flush)
  | .userPrincipals user => (.names (session.tables.userPrincipals user), session)
  | .linkUsers principal users => (.done, users.foldl (editUser (·.add principal)) session)
  | .unlinkUsers principal users => (.done, users.foldl (unlink principal) session)
  | .purgePrincipals principals =>
    if principals.isEmpty then (.done, session)
    else (.done, (session.usersOf principals).foldl (editUser (without · principals)) session)
  | .principalsOf grant =>
    (.names (((session.tables.principalsOf? grant).map Dict.keys).getD []), session)
  | .give principal grant =>
    (.done, session.editPath (addTo · (grant.permission, [principal])) grant.path.text)
  | .take principal grant =>
    if (session.tables.principalsOf? grant).any (·.contains principal) then
      let change := fun (grants : PathGrants) =>
        grants.insert grant.permission
          (((grants.find? grant.permission).getD Dict.empty).erase principal)
      (.done, session.editPath change grant.path.text)
    else (.done, session)
  | .principalsOfAny grants => (.names (session.tables.principalsOfAny grants), session)
  | .grantsOn path =>
    let grants := (session.tables.paths.find? path.text).getD Dict.empty
    (.grants (Dict.ofList (grants.entries.map fun entry => (entry.1, entry.2.keys))), session)
  | .giveAll path set =>
    if set.values.all (·.isEmpty) then (.done, session)
    else (.done, session.editPath (set.entries.foldl addTo ·) path.text)
  | .replaceAll path set =>
    if set.isEmpty then (.done, session)
    else (.done, session.editPath (set.entries.foldl replace ·) path.text)
  | .takeBelow roots => (.done, (session.pathsBelow roots).foldl drop session)
  | .accessiblePaths principals grants =>
    (.names (session.tables.accessiblePaths principals grants), session)
  | .size => (.number session.tables.size, session)

end GrantSession
end DocStore
