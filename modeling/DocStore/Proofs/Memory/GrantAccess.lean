import DocStore.Proofs.Memory.GrantAnswers

/-!
# Access to paths

Two operations say who may open what: one lists the paths on which some of several principals
have one of several grants, the other one lists the principals that have such grants.  Both are
answered from the gifts that are kept, so they agree, and what is listed for several principals
and grants is what is listed for each of them (`SerialStore.access_agrees`).
-/

namespace DocStore

/-- The permissions of those grants that address a path, asked for on this path alone. -/
def Grant.narrow (grants : List Grant) (path : Path) : List Grant :=
  (grants.filter (·.path.contains path)).map fun grant => ⟨grant.permission, path⟩

namespace Gift

/-- A gift is matched by each of several grants on its own. -/
theorem matchedBy_iff_single {grants : List Grant} {gift : Gift} :
    gift.MatchedBy grants ↔ ∃ grant ∈ grants, gift.MatchedBy [grant] := by
  simp [MatchedBy]

theorem MatchedBy.mono {grants others : List Grant} (subset : grants ⊆ others) {gift : Gift}
    (matched : gift.MatchedBy grants) : gift.MatchedBy others := by
  obtain ⟨grant, asked, matched⟩ := matched
  exact ⟨grant, subset asked, matched⟩

/-- Grants that are narrowed to a leaf path match the gifts on it that they match without. -/
theorem matchedBy_narrow {grants : List Grant} {path : Path} (leaf : path.isNode = false)
    {gift : Gift} :
    gift.MatchedBy (Grant.narrow grants path) ↔ gift.path = path.text ∧ gift.MatchedBy grants := by
  have itself (text : String) : path.contains ⟨text⟩ = true ↔ text = path.text := by
    rw [Path.contains, leaf, if_neg Bool.false_ne_true, beq_iff_eq]
    exact ⟨fun same => by rw [same], fun same => by rw [same]⟩
  simp only [MatchedBy, Grant.narrow, List.mem_map, List.mem_filter]
  constructor
  · rintro ⟨_, ⟨grant, ⟨asked, addressed⟩, rfl⟩, permitted, here⟩
    have same := (itself gift.path).1 here
    refine ⟨same, grant, asked, permitted, ?_⟩
    rwa [same]
  · rintro ⟨same, grant, asked, permitted, matched⟩
    rw [same] at matched
    exact ⟨_, ⟨grant, ⟨asked, matched⟩, rfl⟩, permitted, (itself gift.path).2 same⟩

end Gift

/-- What lists of paths, by principals and grants, and lists of principals, by grants, have to
do with each other. -/
structure AccessLaws (paths : List String → List Grant → List String)
    (holders : List Grant → List String) : Prop where
  /-- A leaf path is listed if and only if one of the principals holds a permission on it that
  the grants which address it ask for. -/
  leaf_iff : ∀ principals grants {path : Path}, path.isNode = false →
    (path.text ∈ paths principals grants ↔
      ∃ principal ∈ principals, principal ∈ holders (Grant.narrow grants path))
  /-- Some path is listed if and only if one of the principals holds one of the grants. -/
  nonempty_iff : ∀ principals grants, paths principals grants ≠ [] ↔
    ∃ principal ∈ principals, principal ∈ holders grants
  /-- More principals and more grants open more paths. -/
  mono : ∀ {principals others : List String} {grants further : List Grant},
    principals ⊆ others → grants ⊆ further → paths principals grants ⊆ paths others further
  /-- The paths of several principals and grants are those of each of them, in increasing order
  and each of them once. -/
  union : ∀ principals grants, Lists (paths principals grants)
    {path | ∃ principal ∈ principals, ∃ grant ∈ grants, path ∈ paths [principal] [grant]}
  /-- The order of principals and grants does not matter, nor how often they are given. -/
  members_only : ∀ {principals others : List String} {grants further : List Grant},
    (∀ principal, principal ∈ principals ↔ principal ∈ others) →
    (∀ grant, grant ∈ grants ↔ grant ∈ further) →
    paths principals grants = paths others further

namespace GrantTables

variable (tables : GrantTables)

theorem mem_accessiblePaths {principals : List String} {grants : List Grant} {path : String} :
    path ∈ tables.accessiblePaths principals grants ↔ ∃ gift ∈ tables.gifts,
      gift.MatchedBy grants ∧ gift.principal ∈ principals ∧ gift.path = path :=
  (tables.lists_accessiblePaths principals grants).mem_iff path

theorem mem_principalsOfAny {grants : List Grant} {principal : String} :
    principal ∈ tables.principalsOfAny grants ↔
      ∃ gift ∈ tables.gifts, gift.MatchedBy grants ∧ gift.principal = principal :=
  (tables.lists_principalsOfAny grants).mem_iff principal

theorem text_mem_accessiblePaths (principals : List String) (grants : List Grant) {path : Path}
    (leaf : path.isNode = false) : path.text ∈ tables.accessiblePaths principals grants ↔
      ∃ principal ∈ principals, principal ∈ tables.principalsOfAny (Grant.narrow grants path) := by
  simp only [mem_accessiblePaths, mem_principalsOfAny, Gift.matchedBy_narrow leaf]
  constructor
  · rintro ⟨gift, given, matched, wanted, here⟩
    exact ⟨gift.principal, wanted, gift, given, ⟨here, matched⟩, rfl⟩
  · rintro ⟨_, wanted, gift, given, ⟨here, matched⟩, rfl⟩
    exact ⟨gift, given, matched, wanted, here⟩

theorem accessiblePaths_ne_nil (principals : List String) (grants : List Grant) :
    tables.accessiblePaths principals grants ≠ [] ↔
      ∃ principal ∈ principals, principal ∈ tables.principalsOfAny grants := by
  simp only [mem_principalsOfAny]
  constructor
  · intro filled
    obtain ⟨path, listed⟩ := List.exists_mem_of_ne_nil _ filled
    obtain ⟨gift, given, matched, wanted, _⟩ := tables.mem_accessiblePaths.1 listed
    exact ⟨gift.principal, wanted, gift, given, matched, rfl⟩
  · rintro ⟨_, wanted, gift, given, matched, rfl⟩
    have listed := tables.mem_accessiblePaths.2 ⟨gift, given, matched, wanted, rfl⟩
    exact List.ne_nil_of_mem listed

theorem accessiblePaths_mono {principals others : List String} {grants further : List Grant}
    (more : principals ⊆ others) (wider : grants ⊆ further) :
    tables.accessiblePaths principals grants ⊆ tables.accessiblePaths others further := by
  intro path listed
  obtain ⟨gift, given, matched, wanted, here⟩ := tables.mem_accessiblePaths.1 listed
  exact tables.mem_accessiblePaths.2 ⟨gift, given, matched.mono wider, more wanted, here⟩

theorem mem_accessiblePaths_iff_single (principals : List String) (grants : List Grant)
    (path : String) : path ∈ tables.accessiblePaths principals grants ↔
      ∃ principal ∈ principals, ∃ grant ∈ grants,
        path ∈ tables.accessiblePaths [principal] [grant] := by
  constructor
  · intro listed
    obtain ⟨gift, given, matched, wanted, here⟩ := tables.mem_accessiblePaths.1 listed
    obtain ⟨grant, asked, alone⟩ := Gift.matchedBy_iff_single.1 matched
    exact ⟨gift.principal, wanted, grant, asked,
      tables.mem_accessiblePaths.2 ⟨gift, given, alone, List.mem_singleton_self _, here⟩⟩
  · rintro ⟨principal, wanted, grant, asked, listed⟩
    refine tables.accessiblePaths_mono ?_ ?_ listed
    · exact List.cons_subset.2 ⟨wanted, List.nil_subset _⟩
    · exact List.cons_subset.2 ⟨asked, List.nil_subset _⟩

theorem accessLaws : AccessLaws tables.accessiblePaths tables.principalsOfAny where
  leaf_iff principals grants _ leaf := tables.text_mem_accessiblePaths principals grants leaf
  nonempty_iff := tables.accessiblePaths_ne_nil
  mono := tables.accessiblePaths_mono
  union principals grants :=
    ⟨(tables.lists_accessiblePaths principals grants).increasing,
      tables.mem_accessiblePaths_iff_single principals grants⟩
  members_only samePrincipals sameGrants := by
    have listed := tables.lists_accessiblePaths
    refine Lists.unique (listed _ _) ⟨(listed _ _).increasing, fun path => ?_⟩
    rw [(listed _ _).mem_iff]
    simp only [Gift.MatchedBy, samePrincipals, sameGrants]

end GrantTables

namespace SerialStore

/-- In every state that clients can bring a store of grants into, an open transaction is told
which paths principals may open, and who has grants, as the laws of access say, and asking
changes nothing. -/
theorem access_agrees (moves : List (Move grantEngine)) {client : String}
    {session : GrantSession}
    (opened : ((@SerialStore.start grantEngine GrantTables.empty).play moves).session client =
      .ok session) :
    let store := (@SerialStore.start grantEngine GrantTables.empty).play moves
    (∀ surroundings principals grants,
      store.run client surroundings (.accessiblePaths principals grants) =
        .ok (.names (store.tables.accessiblePaths principals grants), store)) ∧
    (∀ surroundings grants, store.run client surroundings (.principalsOfAny grants) =
      .ok (.names (store.tables.principalsOfAny grants), store)) ∧
    AccessLaws store.tables.accessiblePaths store.tables.principalsOfAny := by
  intro store
  have current : store.tables = GrantSession.tables session := tables_of_session opened
  -- Both operations give the session back, and with it the store.
  have unchanged {op : GrantOp} {names : List String} (surroundings : Surroundings)
      (answers : GrantSession.run session op = (.names names, session)) :
      store.run client surroundings op = .ok (.names names, store) := by
    have ran : grantEngine.run session surroundings op = .ok (.names names, session) :=
      congrArg Except.ok answers
    rw [run_of_ok opened ran, with_lock_of_session opened]
  refine ⟨fun surroundings principals grants => ?_, fun surroundings grants => ?_,
    store.tables.accessLaws⟩
  · rw [current]
    exact unchanged surroundings rfl
  · rw [current]
    exact unchanged surroundings rfl

/-- A permission that a group has on a collection and a user on one of its documents, beside
another permission that the user has on a neighbour. -/
theorem access_agrees_overlapping :
    let here : Surroundings := ⟨⟨0⟩, fun _ => ""⟩
    let moves : List (Move grantEngine) :=
      [.begin "c", .run "c" here (.give "group" ⟨"read", ⟨"/a/*"⟩⟩),
        .run "c" here (.give "u" ⟨"read", ⟨"/a/x"⟩⟩), .run "c" here (.give "u" ⟨"write", ⟨"/a/y"⟩⟩),
        .commit "c", .begin "d"]
    let store := (@SerialStore.start grantEngine GrantTables.empty).play moves
    let grants : List Grant := [⟨"read", ⟨"/a/*"⟩⟩, ⟨"read", ⟨"/a/x"⟩⟩]
    store.tables.accessiblePaths ["u", "group", "u"] grants = ["/a/*", "/a/x"] ∧
      Grant.narrow grants ⟨"/a/x"⟩ = [⟨"read", ⟨"/a/x"⟩⟩, ⟨"read", ⟨"/a/x"⟩⟩] ∧
      ∃ session, store.session "d" = .ok session ∧
        ("/a/x" ∈ store.tables.accessiblePaths ["u"] grants ↔ ∃ principal ∈ ["u"],
          principal ∈ store.tables.principalsOfAny (Grant.narrow grants ⟨"/a/x"⟩)) := by
  intro here moves store grants
  refine ⟨by decide +kernel, by decide +kernel, _, rfl, ?_⟩
  obtain ⟨_, _, laws⟩ := @access_agrees moves "d" _ rfl
  exact laws.leaf_iff ["u"] grants (by decide)

end SerialStore
end DocStore
