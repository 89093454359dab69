import DocStore.Sql.Conversation
import DocStore.Sql.Predicate
import DocStore.Store.Grants

/-!
# Grants on a server

Each principal of a grant is a row of one table, and each link of a user to a
principal a row of another.  Each operation on grants is a conversation within the
transaction that is open on the server.
-/

namespace DocStore
namespace Sql

/-! ## Tables -/

/-- The table of grants. -/
def grantTable : String := "permission_paths"

/-- The table of links. -/
def linkTable : String := "permission_principals"

/-- Whether the path of a row is matched by the path of a grant: the same leaf, or a
child of the node. -/
def pathMatches (path : Path) : Expr :=
  if path.isNode then
    let start := likeStart path.collection ++ "/"
    .and (.compare .like (.column "path") (.bound (.text (start ++ "%"))))
      (.compare .notLike (.column "path") (.bound (.text (start ++ "%/%"))))
  else Expr.columnIs "path" path.text

/-- Whether a row is matched by a grant. -/
def grantMatches (grant : Grant) : Expr :=
  .paren (.and (Expr.columnIs "permission" grant.permission) (pathMatches grant.path))

/-- Whether a row is matched by one of the grants. -/
def anyGrantMatches (first : Grant) (rest : List Grant) : Expr :=
  .paren (Expr.any (grantMatches first) (rest.map grantMatches))

/-- Inserts rows of texts, those that are there left out. -/
def insertTexts (table : String) (columns : List String) (rows : List (List String)) :
    Statement :=
  .insert table columns (rows.map fun row => row.map fun text => .bound (.text text)) .skip none

/-- Inserts permissions and principals on a path. -/
def insertGrants (path : Path) (entries : List (String × String)) : Statement :=
  insertTexts grantTable ["path", "permission", "principal"]
    (entries.map fun entry => [path.text, entry.1, entry.2])

/-- Links users to a principal. -/
def insertLinks (principal : String) (users : List String) : Statement :=
  insertTexts linkTable ["user_id", "principal"] (users.map fun user => [user, principal])

/-- The principals linked to one of several users. -/
def selectLinked (users : List String) : Statement :=
  .select {
    distinct := true
    items := [.column "principal"]
    source := linkTable
    condition := Expr.columnIsAny "user_id" users }

/-- Unlinks users from a principal. -/
def deleteLinks (principal : String) (users : List String) : Statement :=
  .delete linkTable (.and (Expr.columnIs "principal" principal) (Expr.columnIsAny "user_id" users))

/-- Unlinks every user from several principals. -/
def deletePrincipals (principals : List String) : Statement :=
  .delete linkTable (Expr.columnIsAny "principal" principals)

/-- The principals that have a grant. -/
def selectPrincipals (grant : Grant) : Statement :=
  .select {
    items := [.column "principal"]
    source := grantTable
    condition := some (.and (Expr.columnIs "path" grant.path.text)
      (Expr.columnIs "permission" grant.permission))
    order := ["principal"] }

/-- Takes a grant from a principal. -/
def deleteGrant (principal : String) (grant : Grant) : Statement :=
  .delete grantTable
    (.and (Expr.columnIs "path" grant.path.text)
      (.and (Expr.columnIs "permission" grant.permission) (Expr.columnIs "principal" principal)))

/-- The principals that have a grant matched by one of the given ones. -/
def selectMatching (first : Grant) (rest : List Grant) : Statement :=
  .select {
    distinct := true
    items := [.column "principal"]
    source := grantTable
    condition := anyGrantMatches first rest
    order := ["principal"] }

/-- The paths on which one of the principals has a matching grant. -/
def selectPaths (principals : List String) (first : Grant) (rest : List Grant) : Statement :=
  .select {
    distinct := true
    items := [.column "path"]
    source := grantTable
    condition := some (.and (Expr.columnIsAny "principal" principals) (anyGrantMatches first rest))
    order := ["path"] }

/-- The permissions and principals on a path. -/
def selectGrants (path : Path) : Statement :=
  .select {
    items := [.column "permission", .column "principal"]
    source := grantTable
    condition := Expr.columnIs "path" path.text
    order := ["permission", "principal"] }

/-- Takes the named permissions on a path from everyone. -/
def deletePermissions (path : Path) (permissions : List String) : Statement :=
  .delete grantTable
    (.and (Expr.columnIs "path" path.text) (Expr.columnIsAny "permission" permissions))

/-- Takes all grants on paths and below them. -/
def deleteBelow (paths : List Path) : Statement :=
  .delete grantTable
    (.or (Expr.columnIsAny "path" (paths.map Path.text))
      (.anyOf .like (.column "path")
        (.textArray (paths.map fun path => likeStart path.text ++ "/%"))))

/-- Empties both tables. -/
def emptyGrants : Statement := .truncate [grantTable, linkTable]

/-- Counts grants and links. -/
def selectGrantSize : Statement :=
  .select { items := [.plus (.countOf grantTable) (.countOf linkTable)] }

/-! ## Operations -/

open Conversation

/-- The pairs of permission and principal of a set. -/
def pairsOf (set : GrantSet) : List (String × String) :=
  set.entries.flatMap fun entry => entry.2.map fun principal => (entry.1, principal)

/-- Collects principals under their permissions, in the order in which they come. -/
def collectPairs (pairs : List (String × String)) : GrantSet :=
  pairs.foldl (fun set pair => set.insert pair.1 (((set.find? pair.1).getD []) ++ [pair.2]))
    Dict.empty

/-- Gives permissions to principals, if there are any. -/
def give (path : Path) : List (String × String) → Talk Unit
  | [] => pure ()
  | entries => do
    let _ ← execute "insert permissions" (insertGrants path entries)

/-- The name under which an operation is timed. -/
def grantTask : GrantOp → String
  | .flush => "flush_permissions"
  | .userPrincipals _ => "get_user_principals"
  | .linkUsers _ _ => "add_user_principal"
  | .unlinkUsers _ _ => "remove_user_principal"
  | .purgePrincipals _ => "purge_user_principals"
  | .principalsOf _ => "get_ace_principals"
  | .give _ _ => "add_ace_principal"
  | .take _ _ => "remove_ace_principal"
  | .principalsOfAny _ => "get_all_ace_principals"
  | .grantsOn _ => "get_permissions"
  | .giveAll _ _ => "create_permissions"
  | .replaceAll _ _ => "merge_permissions"
  | .takeBelow _ => "delete_permissions"
  | .accessiblePaths _ _ => "get_accessible_paths"
  | .size => "num_permission_entries"

/-- What is said about an operation. -/
def grantExchange : GrantOp → Talk GrantAnswer
  | .flush => do
    let _ ← execute "flush permissions" emptyGrants
    return .done
  | .userPrincipals user => do
    let implicit := implicitPrincipals user
    let linked ← fetchAll "get user principals" (single textCell) (selectLinked implicit)
    return .names (NameSet.ofNames (implicit ++ linked)).keys
  | .linkUsers _ [] => return .done
  | .linkUsers principal users => do
    let _ ← execute "add user principal" (insertLinks principal users)
    return .done
  | .unlinkUsers principal users => do
    let _ ← execute "remove user principal" (deleteLinks principal users)
    return .done
  | .purgePrincipals principals => do
    let _ ← execute "purge user principals" (deletePrincipals principals)
    return .done
  | .principalsOf grant => do
    return .names (← fetchAll "get ace principals" (single textCell) (selectPrincipals grant))
  | .give principal grant => do
    give grant.path [(grant.permission, principal)]
    return .done
  | .take principal grant => do
    let _ ← execute "remove ace principal" (deleteGrant principal grant)
    return .done
  | .principalsOfAny [] => return .names []
  | .principalsOfAny (first :: rest) => do
    return .names (← fetchAll "get all ace principals" (single textCell)
      (selectMatching first rest))
  | .grantsOn path => do
    return .grants (collectPairs (← fetchAll "get permissions" textPair (selectGrants path)))
  | .giveAll path set => do
    give path (pairsOf set)
    return .done
  | .replaceAll path set =>
    if set.isEmpty then return .done
    else do
      let _ ← execute "clear merged permissions" (deletePermissions path set.keys)
      give path (pairsOf set)
      return .done
  | .takeBelow [] => return .done
  | .takeBelow paths => do
    let _ ← execute "delete permissions" (deleteBelow paths)
    return .done
  | .accessiblePaths [] _ => return .names []
  | .accessiblePaths _ [] => return .names []
  | .accessiblePaths principals (first :: rest) => do
    return .names (← fetchAll "get accessible paths" (single textCell)
      (selectPaths principals first rest))
  | .size => do
    return .number (← fetchOne "count permission entries" "" (single intCell) selectGrantSize)

/-- The conversation of an operation, bounded in time. -/
def grantTalk (limit : Nat) (op : GrantOp) : Talk GrantAnswer :=
  (grantExchange op).within (grantTask op) limit

end Sql
end DocStore
