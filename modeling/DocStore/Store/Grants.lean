import DocStore.Grant
import DocStore.StoreError

/-!
# Operations on grants

The operations that every store of grants offers within a transaction, and what they
answer.  A store links users to principals, and grants to the principals that have
them.
-/

namespace DocStore

/-- An operation within a transaction. -/
inductive GrantOp where
  /-- Erases everything. -/
  | flush
  /-- The principals of a user: itself, the shared ones and every linked one. -/
  | userPrincipals (user : String)
  /-- Links users to a principal. -/
  | linkUsers (principal : String) (users : List String)
  /-- Unlinks users from a principal. -/
  | unlinkUsers (principal : String) (users : List String)
  /-- Unlinks every user from the given principals. -/
  | purgePrincipals (principals : List String)
  /-- The principals that have a grant. -/
  | principalsOf (grant : Grant)
  /-- Gives a grant to a principal. -/
  | give (principal : String) (grant : Grant)
  /-- Takes a grant from a principal. -/
  | take (principal : String) (grant : Grant)
  /-- The principals that have a grant matched by one of the given ones. -/
  | principalsOfAny (grants : List Grant)
  /-- All grants on a path. -/
  | grantsOn (path : Path)
  /-- Gives further grants on a path. -/
  | giveAll (path : Path) (set : GrantSet)
  /-- Replaces the principals of the named permissions on a path. -/
  | replaceAll (path : Path) (set : GrantSet)
  /-- Takes all grants on the paths and on everything below them. -/
  | takeBelow (paths : List Path)
  /-- The paths on which one of the principals has a grant matched by one of the given
  ones. -/
  | accessiblePaths (principals : List String) (grants : List Grant)
  /-- Counts links and grants. -/
  | size

/-- What an operation answers. -/
inductive GrantAnswer where
  | done
  | number (value : Int)
  | names (values : List String)
  | grants (set : GrantSet)

/-- Whether a path is the root or lies below it. -/
def isAtOrBelow (root path : Path) : Bool :=
  path == root || (root.text.toList ++ ['/']).isPrefixOf path.text.toList

end DocStore
