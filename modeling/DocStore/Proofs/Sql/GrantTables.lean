import DocStore.Proofs.Memory.GrantAnswers
import DocStore.Proofs.Sql.Ordering
import DocStore.Proofs.Sql.PathPattern
import DocStore.Proofs.Sql.SetTables

/-!
# Statements on the tables of grants

What each statement about grants does to the links and the gifts that the two tables show
(`ShowsGrants`).  Insertions and deletions make other links or gifts of them (`Makes`); queries
show the principals, paths and pairs that the links and the gifts select.
-/

namespace DocStore

deriving instance DecidableEq for Link, Gift

namespace Sql

/-! ## Rows

The rows are irreducible: all that is used of them are their cells.
-/

/-- The row of a link. -/
@[irreducible] def linkRow (link : Link) : Record :=
  Dict.ofList [("user_id", .text link.user), ("principal", .text link.principal)]

/-- The row of a gift. -/
@[irreducible] def giftRow (gift : Gift) : Record :=
  Dict.ofList [("path", .text gift.path), ("permission", .text gift.permission),
    ("principal", .text gift.principal)]

theorem find?_linkRow (link : Link) (column : String) :
    (linkRow link).find? column =
      if column = "principal" then some (.text link.principal)
      else if column = "user_id" then some (.text link.user) else none := by
  unfold linkRow
  refine Eq.trans (Assoc.find?_ofList _ column) ?_
  simp only [List.reverse_cons, List.reverse_nil, List.nil_append, List.cons_append, Assoc.find?,
    eq_comm]

theorem find?_giftRow (gift : Gift) (column : String) :
    (giftRow gift).find? column =
      if column = "principal" then some (.text gift.principal)
      else if column = "permission" then some (.text gift.permission)
      else if column = "path" then some (.text gift.path) else none := by
  unfold giftRow
  refine Eq.trans (Assoc.find?_ofList _ column) ?_
  simp only [List.reverse_cons, List.reverse_nil, List.nil_append, List.cons_append, Assoc.find?,
    eq_comm]

@[simp] theorem linkRow_user (link : Link) :
    (linkRow link).find? "user_id" = some (.text link.user) := by simp [find?_linkRow]

@[simp] theorem linkRow_principal (link : Link) :
    (linkRow link).find? "principal" = some (.text link.principal) := by simp [find?_linkRow]

@[simp] theorem giftRow_path (gift : Gift) :
    (giftRow gift).find? "path" = some (.text gift.path) := by simp [find?_giftRow]

@[simp] theorem giftRow_permission (gift : Gift) :
    (giftRow gift).find? "permission" = some (.text gift.permission) := by simp [find?_giftRow]

@[simp] theorem giftRow_principal (gift : Gift) :
    (giftRow gift).find? "principal" = some (.text gift.principal) := by simp [find?_giftRow]

variable {dialect : Dialect}

theorem keyedBy_links (dialect : Dialect) : KeyedBy dialect (primaryKey linkTable) linkRow id := by
  rintro ⟨user, principal⟩ ⟨other, second⟩
  simp [primaryKey, linkTable, Dialect.sameKey, compareData_text]
  grind

theorem keyedBy_gifts (dialect : Dialect) : KeyedBy dialect (primaryKey grantTable) giftRow id := by
  rintro ⟨path, permission, principal⟩ ⟨other, second, third⟩
  simp [primaryKey, grantTable, Dialect.sameKey, compareData_text]
  grind

/-- The row that is to be inserted for a link. -/
theorem assign_link (link : Link) :
    Dialect.assign { dialect, row := Dict.empty } Dict.empty
      (["user_id", "principal"].zip
        [.bound (.text link.user), .bound (.text link.principal)]) = .ok (linkRow link) := by
  have same : Dict.insert (Dict.insert (Dict.empty : Record) "user_id" (.text link.user))
      "principal" (.text link.principal) = linkRow link := by
    refine Dict.ext fun column => ?_
    simp only [Dict.find?_insert, find?_linkRow, Dict.find?_empty]
  exact (Dialect.assign_cons _ rfl rfl).trans
    ((Dialect.assign_cons _ rfl rfl).trans (congrArg Except.ok same))

/-- The row that is to be inserted for a gift. -/
theorem assign_gift (gift : Gift) :
    Dialect.assign { dialect, row := Dict.empty } Dict.empty
      (["path", "permission", "principal"].zip
        [.bound (.text gift.path), .bound (.text gift.permission),
          .bound (.text gift.principal)]) = .ok (giftRow gift) := by
  have same : Dict.insert (Dict.insert (Dict.insert (Dict.empty : Record) "path"
      (.text gift.path)) "permission" (.text gift.permission)) "principal"
      (.text gift.principal) = giftRow gift := by
    refine Dict.ext fun column => ?_
    simp only [Dict.find?_insert, find?_giftRow, Dict.find?_empty]
  exact (Dialect.assign_cons _ rfl rfl).trans ((Dialect.assign_cons _ rfl rfl).trans
    ((Dialect.assign_cons _ rfl rfl).trans (congrArg Except.ok same)))

/-! ## Conditions -/

section

variable {scope : Scope} {column value : String}
  (cell : scope.row.find? column = some (.text value))

include cell

/-- A text column compared with one of several texts. -/
theorem passes_anyOf {comparison : Comparison} {test : String → Bool}
    (compared : ∀ text, scope.dialect.compareData comparison (some (.text value))
      (some (.text text)) = some (test text)) (texts : List String) :
    (Expr.anyOf comparison (.column column) (.textArray texts)).passes scope =
      texts.any test := by
  have known : (texts.map fun text => scope.dialect.compareData comparison (some (.text value))
      (some (.text text))) = (texts.map test).map some := by
    rw [List.map_map]
    exact List.map_congr_left fun text _ => compared text
  rw [Expr.passes, Expr.eval, Datum.truth_map_bool, Expr.eval, cell, known, Truth.any_known,
    Truth.passes_some, List.any_map]
  rfl

theorem passes_columnIsAny (texts : List String) :
    (Expr.columnIsAny column texts).passes scope = true ↔ value ∈ texts := by
  rw [Expr.columnIsAny, passes_anyOf cell fun text => compareData_text scope.dialect value text]
  simp

theorem passes_columnLikeAny (patterns : List String) :
    (Expr.anyOf .like (.column column) (.textArray patterns)).passes scope =
      patterns.any (isLike · value) :=
  passes_anyOf cell (fun _ => rfl) patterns

end

/-- The row of a gift is matched by grants if the gift is. -/
theorem passes_anyGrantMatches {scope : Scope} {gift : Gift} (row : scope.row = giftRow gift)
    (slashed : Path.Slashed ⟨gift.path⟩) (first : Grant) (rest : List Grant) :
    (anyGrantMatches first rest).passes scope = true ↔ gift.MatchedBy (first :: rest) := by
  have permission : scope.row.find? "permission" = some (.text gift.permission) := by simp [row]
  have path : scope.row.find? "path" = some (.text (Path.mk gift.path).text) := by simp [row]
  have one (grant : Grant) : (grantMatches grant).passes scope = true ↔
      grant.permission = gift.permission ∧ grant.path.contains ⟨gift.path⟩ = true := by
    rw [grantMatches, Expr.passes_paren, Expr.passes_and, passes_columnIs permission,
      passes_pathMatches path slashed, Bool.and_eq_true, beq_iff_eq, eq_comm]
  rw [anyGrantMatches, Expr.passes_paren, Expr.passes_any, ← List.map_cons, List.any_map,
    List.any_eq_true]
  exact exists_congr fun grant => and_congr_right fun _ => one grant

/-! ## Tables -/

/-- Tables that show links and gifts. -/
structure ShowsGrants (tables : Database) (links : Set Link) (gifts : Set Gift) : Prop where
  links : ShowsSet linkRow (tables linkTable) links
  gifts : ShowsSet giftRow (tables grantTable) gifts

theorem showsGrants_empty {tables : Database} (links : tables linkTable = [])
    (gifts : tables grantTable = []) : ShowsGrants tables ∅ ∅ where
  links := links ▸ showsSet_empty linkRow
  gifts := gifts ▸ showsSet_empty giftRow

variable {tables : Database} {links : Set Link} {gifts : Set Gift}

theorem ShowsGrants.setLinks (shows : ShowsGrants tables links gifts) {table : Table}
    {more : Set Link} (shown : ShowsSet linkRow table more) :
    ShowsGrants (tables.set linkTable table) more gifts where
  links := by rwa [set_same]
  gifts := by
    rw [set_other tables table (by decide)]
    exact shows.gifts

theorem ShowsGrants.setGifts (shows : ShowsGrants tables links gifts) {table : Table}
    {more : Set Gift} (shown : ShowsSet giftRow table more) :
    ShowsGrants (tables.set grantTable table) links more where
  links := by
    rw [set_other tables table (by decide)]
    exact shows.links
  gifts := by rwa [set_same]

/-! ## Changes -/

/-- A statement without rows makes other links and gifts of those that tables show. -/
def Makes (dialect : Dialect) (statement : Statement) (links : Set Link) (gifts : Set Gift)
    (linksAfter : Set Link) (giftsAfter : Set Gift) : Prop :=
  ∀ tables, ShowsGrants tables links gifts →
    ∃ affected after, dialect.execute tables statement = .ok ⟨[], affected, after⟩ ∧
      ShowsGrants after linksAfter giftsAfter

theorem makes_emptyGrants (links : Set Link) (gifts : Set Gift) :
    Makes dialect emptyGrants links gifts ∅ ∅ :=
  fun _ _ => ⟨0, _, rfl, showsGrants_empty rfl rfl⟩

theorem makes_insertLinks (principal : String) (users : List String) :
    Makes dialect (insertLinks principal users) links gifts
      (links ∪ {link | link.user ∈ users ∧ link.principal = principal}) gifts := by
  intro tables shows
  let news : List Link := users.map fun user => ⟨user, principal⟩
  let values (link : Link) : List Expr :=
    [.bound (.text link.user), .bound (.text link.principal)]
  have statement : insertLinks principal users =
      .insert linkTable ["user_id", "principal"] (news.map values) .skip none := by
    simp only [insertLinks, insertTexts, news, List.map_map]
    rfl
  have named : {link | link.user ∈ users ∧ link.principal = principal} =
      {link | link ∈ news} := by
    ext ⟨user, other⟩
    simp [news, eq_comm]
  obtain ⟨affected, table, executed, shown⟩ :=
    execute_insertNew (keyedBy_links dialect) assign_link news shows.links
  rw [statement, named]
  exact ⟨affected, _, executed, shows.setLinks shown⟩

theorem makes_insertGrants (path : Path) (entries : List (String × String)) :
    Makes dialect (insertGrants path entries) links gifts links
      (gifts ∪ {gift | gift.path = path.text ∧ (gift.permission, gift.principal) ∈ entries}) := by
  intro tables shows
  let news : List Gift := entries.map fun entry => ⟨path.text, entry.1, entry.2⟩
  let values (gift : Gift) : List Expr :=
    [.bound (.text gift.path), .bound (.text gift.permission), .bound (.text gift.principal)]
  have statement : insertGrants path entries =
      .insert grantTable ["path", "permission", "principal"] (news.map values) .skip none := by
    simp only [insertGrants, insertTexts, news, List.map_map]
    rfl
  have named : {gift | gift.path = path.text ∧ (gift.permission, gift.principal) ∈ entries} =
      {gift | gift ∈ news} := by
    ext ⟨other, permission, principal⟩
    simp [news, eq_comm, and_comm]
  obtain ⟨affected, table, executed, shown⟩ :=
    execute_insertNew (keyedBy_gifts dialect) assign_gift news shows.gifts
  rw [statement, named]
  exact ⟨affected, _, executed, shows.setGifts shown⟩

/-- A deletion takes the links away that pass its condition. -/
theorem makes_deleteLink {condition : Expr} {goes : Link → Prop}
    (passes : ∀ link, condition.passes { dialect, row := linkRow link } = true ↔ goes link) :
    Makes dialect (.delete linkTable condition) links gifts (links \ {link | goes link}) gifts := by
  intro tables shows
  obtain ⟨affected, table, executed, shown⟩ :=
    execute_deleteMembers shows.links fun link _ => passes link
  exact ⟨affected, _, executed, shows.setLinks shown⟩

/-- A deletion takes the gifts away that pass its condition. -/
theorem makes_deleteGift {condition : Expr} {goes : Gift → Prop}
    (passes : ∀ gift, condition.passes { dialect, row := giftRow gift } = true ↔ goes gift) :
    Makes dialect (.delete grantTable condition) links gifts links
      (gifts \ {gift | goes gift}) := by
  intro tables shows
  obtain ⟨affected, table, executed, shown⟩ :=
    execute_deleteMembers shows.gifts fun gift _ => passes gift
  exact ⟨affected, _, executed, shows.setGifts shown⟩

theorem makes_deleteLinks (principal : String) (users : List String) :
    Makes dialect (deleteLinks principal users) links gifts
      (links \ {link | link.user ∈ users ∧ link.principal = principal}) gifts := by
  refine makes_deleteLink fun link => ?_
  rw [Expr.passes_and, passes_columnIs (linkRow_principal link), Bool.and_eq_true, beq_iff_eq,
    passes_columnIsAny (linkRow_user link), and_comm]

theorem makes_deletePrincipals (principals : List String) :
    Makes dialect (deletePrincipals principals) links gifts
      (links \ {link | link.principal ∈ principals}) gifts :=
  makes_deleteLink fun link => passes_columnIsAny (linkRow_principal link) principals

theorem makes_deleteGrant (principal : String) (grant : Grant) :
    Makes dialect (deleteGrant principal grant) links gifts links
      (gifts \ {⟨grant.path.text, grant.permission, principal⟩}) := by
  refine makes_deleteGift fun gift => ?_
  rw [Expr.passes_and, passes_columnIs (giftRow_path gift), Expr.passes_and,
    passes_columnIs (giftRow_permission gift), passes_columnIs (giftRow_principal gift),
    Bool.and_eq_true, Bool.and_eq_true, beq_iff_eq, beq_iff_eq, beq_iff_eq]
  exact (Gift.mk.injEq ..).to_iff.symm

theorem makes_deletePermissions (path : Path) (permissions : List String) :
    Makes dialect (deletePermissions path permissions) links gifts links
      (gifts \ {gift | gift.path = path.text ∧ gift.permission ∈ permissions}) := by
  refine makes_deleteGift fun gift => ?_
  rw [Expr.passes_and, passes_columnIs (giftRow_path gift), Bool.and_eq_true, beq_iff_eq,
    passes_columnIsAny (giftRow_permission gift)]

theorem makes_deleteBelow (roots : List Path) :
    Makes dialect (deleteBelow roots) links gifts links
      (gifts \ {gift | ∃ root ∈ roots,
        gift.path = root.text ∨ root.text.toList ++ ['/'] <+: gift.path.toList}) := by
  refine makes_deleteGift fun gift => ?_
  rw [Expr.passes_or, Bool.or_eq_true, passes_columnIsAny (giftRow_path gift),
    passes_columnLikeAny (giftRow_path gift), List.any_map, List.any_eq_true, List.mem_map,
    ← exists_or]
  refine exists_congr fun root => ?_
  rw [← and_or_left, eq_comm, Function.comp_apply, isLike_likeStart, List.isPrefixOf_iff_prefix]

/-! ## Queries -/

/-- Gifts on paths that have a slash. -/
def Slashed (gifts : Set Gift) : Prop := ∀ gift ∈ gifts, Path.Slashed ⟨gift.path⟩

section

variable {server : Server} (shows : ShowsGrants server.tables links gifts)

include shows

/-- The principals that one of several users is linked to are shown once, in no order. -/
theorem runs_selectLinked (users : List String) : ∃ names : List String,
    server.Runs dialect (selectLinked users) (names.map textRow) names.length server ∧
      ∀ name, name ∈ names ↔ ∃ user ∈ users, ⟨user, name⟩ ∈ links := by
  let query : Select := {
    distinct := true
    items := [.column "principal"]
    source := linkTable
    condition := Expr.columnIsAny "user_id" users }
  have source : query.source = some linkTable := rfl
  have passes (link : Link) : query.condition.all
      (Expr.passes (dialect.scope server.tables (linkRow link) 0)) = true ↔ link.user ∈ users :=
    passes_columnIsAny (linkRow_user link) users
  obtain ⟨items, found, enumerates⟩ :=
    found_members shows.links source fun link _ => passes link
  obtain ⟨names, rows, mem_iff⟩ := rows_column_distinct found linkRow_principal rfl rfl rfl
  refine ⟨names, runs_rows rows, fun name => ?_⟩
  rw [mem_iff]
  simp only [enumerates.mem_iff]
  constructor
  · rintro ⟨⟨user, _⟩, ⟨linked, listed⟩, rfl⟩
    exact ⟨user, listed, linked⟩
  · rintro ⟨user, listed, linked⟩
    exact ⟨⟨user, name⟩, ⟨linked, listed⟩, rfl⟩

/-- A query for one column of the gifts, in its order and without repetitions. -/
theorem runs_giftColumn {query : Select} {column : String} {text : Gift → String}
    (source : query.source = some grantTable)
    (cells : ∀ gift, (giftRow gift).find? column = some (.text (text gift)))
    (items : query.items = [.column column]) (unlimited : query.limit = none)
    (ordered : query.order = [column]) {asked : Gift → Prop}
    (passes : ∀ gift ∈ gifts, query.condition.all
      (Expr.passes (dialect.scope server.tables (giftRow gift) 0)) = true ↔ asked gift)
    (once : query.distinct = false → ∀ gift other, asked gift → asked other →
      text gift = text other → gift = other) :
    ∃ names : List String,
      server.Runs dialect (.select query) (names.map textRow) names.length server ∧
        Lists names {name | ∃ gift ∈ gifts, asked gift ∧ text gift = name} := by
  obtain ⟨found, isFound, enumerates⟩ := found_members shows.gifts source passes
  have apart (all : query.distinct = false) : (found.map text).Nodup := by
    refine List.Nodup.map_on (fun gift listed other member same => ?_) enumerates.nodup
    rw [enumerates.mem_iff] at listed member
    exact once all gift other listed.2 member.2 same
  obtain ⟨names, rows, increasing, mem_iff⟩ :=
    rows_column_ordered isFound cells items unlimited ordered apart
  refine ⟨names, runs_rows rows, increasing, fun name => ?_⟩
  rw [mem_iff]
  simp only [enumerates.mem_iff]
  exact exists_congr fun gift => and_assoc

theorem runs_selectPrincipals (grant : Grant) : ∃ names : List String,
    server.Runs dialect (selectPrincipals grant) (names.map textRow) names.length server ∧
      Lists names {principal | ⟨grant.path.text, grant.permission, principal⟩ ∈ gifts} := by
  let query : Select := {
    items := [.column "principal"]
    source := grantTable
    condition := some (.and (Expr.columnIs "path" grant.path.text)
      (Expr.columnIs "permission" grant.permission))
    order := ["principal"] }
  have source : query.source = some grantTable := rfl
  have passes (gift : Gift) : query.condition.all
      (Expr.passes (dialect.scope server.tables (giftRow gift) 0)) = true ↔
        gift.path = grant.path.text ∧ gift.permission = grant.permission := by
    rw [Option.all_some, Expr.passes_and, passes_columnIs (giftRow_path gift),
      passes_columnIs (giftRow_permission gift), Bool.and_eq_true, beq_iff_eq, beq_iff_eq]
  obtain ⟨names, runs, lists⟩ := runs_giftColumn shows source giftRow_principal rfl rfl rfl
    (fun gift _ => passes gift) fun _ gift other asked also same => by
      cases gift
      cases other
      simp_all
  refine ⟨names, runs, lists.increasing, fun name => (lists.mem_iff name).trans ?_⟩
  constructor
  · rintro ⟨⟨path, permission, principal⟩, given, ⟨rfl, rfl⟩, rfl⟩
    exact given
  · intro given
    exact ⟨_, given, ⟨rfl, rfl⟩, rfl⟩

/-- The principals of the gifts that grants match. -/
theorem runs_selectMatching (slashed : Slashed gifts) (first : Grant)
    (rest : List Grant) : ∃ names : List String,
    server.Runs dialect (selectMatching first rest) (names.map textRow) names.length server ∧
      Lists names {principal | ∃ gift ∈ gifts, gift.MatchedBy (first :: rest) ∧
        gift.principal = principal} := by
  let query : Select := {
    distinct := true
    items := [.column "principal"]
    source := grantTable
    condition := anyGrantMatches first rest
    order := ["principal"] }
  have source : query.source = some grantTable := rfl
  have passes (gift : Gift) (given : gift ∈ gifts) : query.condition.all
      (Expr.passes (dialect.scope server.tables (giftRow gift) 0)) = true ↔
        gift.MatchedBy (first :: rest) :=
    passes_anyGrantMatches rfl (slashed gift given) first rest
  exact runs_giftColumn shows source giftRow_principal rfl rfl rfl passes nofun

/-- The paths on which principals have gifts that grants match. -/
theorem runs_selectPaths (slashed : Slashed gifts)
    (principals : List String) (first : Grant) (rest : List Grant) : ∃ names : List String,
    server.Runs dialect (selectPaths principals first rest) (names.map textRow) names.length
        server ∧
      Lists names {path | ∃ gift ∈ gifts, (gift.MatchedBy (first :: rest) ∧
        gift.principal ∈ principals) ∧ gift.path = path} := by
  let query : Select := {
    distinct := true
    items := [.column "path"]
    source := grantTable
    condition := some (.and (Expr.columnIsAny "principal" principals)
      (anyGrantMatches first rest))
    order := ["path"] }
  have source : query.source = some grantTable := rfl
  have passes (gift : Gift) (given : gift ∈ gifts) : query.condition.all
      (Expr.passes (dialect.scope server.tables (giftRow gift) 0)) = true ↔
        gift.MatchedBy (first :: rest) ∧ gift.principal ∈ principals := by
    rw [Option.all_some, Expr.passes_and, Bool.and_eq_true,
      passes_columnIsAny (giftRow_principal gift),
      passes_anyGrantMatches rfl (slashed gift given) first rest, and_comm]
  exact runs_giftColumn shows source giftRow_path rfl rfl rfl passes nofun

/-- The permissions and the principals on a path, in order. -/
theorem runs_selectGrants (path : Path) : ∃ pairs : List (String × String),
    server.Runs dialect (selectGrants path) (pairs.map pairRow) pairs.length server ∧
      (pairs.Pairwise fun left right => toLex left < toLex right) ∧
      ∀ permission principal, (permission, principal) ∈ pairs ↔
        ⟨path.text, permission, principal⟩ ∈ gifts := by
  let query : Select := {
    items := [.column "permission", .column "principal"]
    source := grantTable
    condition := Expr.columnIs "path" path.text
    order := ["permission", "principal"] }
  have source : query.source = some grantTable := rfl
  have passes (gift : Gift) : query.condition.all
      (Expr.passes (dialect.scope server.tables (giftRow gift) 0)) = true ↔
        gift.path = path.text := by
    rw [Option.all_some, passes_columnIs (giftRow_path gift), beq_iff_eq]
  obtain ⟨items, found, enumerates⟩ :=
    found_members shows.gifts source fun gift _ => passes gift
  have nodup : (items.map fun gift => (gift.permission, gift.principal)).Nodup := by
    refine List.Nodup.map_on (fun gift listed other member same => ?_) enumerates.nodup
    rw [enumerates.mem_iff] at listed member
    obtain ⟨permissions, principals⟩ := Prod.mk.inj same
    cases gift
    cases other
    exact (Gift.mk.injEq ..).to_iff.2 ⟨listed.2.trans member.2.symm, permissions, principals⟩
  obtain ⟨pairs, rows, sorted, mem_iff⟩ := rows_pairs found giftRow_permission giftRow_principal
    rfl rfl rfl rfl nodup
  refine ⟨pairs, runs_rows rows, sorted, fun permission principal => ?_⟩
  rw [mem_iff]
  simp only [enumerates.mem_iff, Prod.mk.injEq]
  constructor
  · rintro ⟨⟨_, _, _⟩, ⟨given, rfl⟩, rfl, rfl⟩
    exact given
  · intro given
    exact ⟨_, ⟨given, rfl⟩, rfl, rfl⟩

/-- The number of gifts and links. -/
theorem runs_selectGrantSize : server.Runs dialect selectGrantSize
    [[.int (links.ncard + gifts.ncard)]] 1 server := by
  obtain ⟨linked, isLinked, allLinks⟩ := shows.links
  obtain ⟨given, isGiven, allGifts⟩ := shows.gifts
  have linkCount : links.ncard = (server.tables linkTable).length := by
    rw [isLinked, List.length_map]
    exact GrantTables.ncard_of_list allLinks.nodup allLinks.mem_iff
  have giftCount : gifts.ncard = (server.tables grantTable).length := by
    rw [isGiven, List.length_map]
    exact GrantTables.ncard_of_list allGifts.nodup allGifts.mem_iff
  have runs := runs_query dialect server
    { items := [.plus (.countOf grantTable) (.countOf linkTable)] }
  rw [rows_unordered server.tables rfl rfl rfl] at runs
  rw [linkCount, giftCount, Int.add_comm]
  exact runs

end

end Sql
end DocStore
