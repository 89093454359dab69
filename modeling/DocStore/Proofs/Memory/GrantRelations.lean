import Mathlib.Order.BooleanAlgebra.Set
import DocStore.Proofs.Memory.GrantEdits

/-!
# Grants as relations

The tables of a store of grants hold two relations: which users are linked to which
principals (`GrantTables.links`), and which permissions on which paths are given to which
principals (`GrantTables.gifts`).  `linksAfter` and `giftsAfter` say what every operation makes
of them, as sets; `links_run` and `gifts_run` show that the tables follow.
-/

namespace DocStore

/-- A user and a principal that it is linked to. -/
structure Link where
  user : String
  principal : String

/-- A permission on a path, given to a principal. -/
structure Gift where
  path : String
  permission : String
  principal : String

namespace GrantTables

/-- The principals that a user is linked to, none where the user is not kept. -/
def principalsOfUser (tables : GrantTables) (user : String) : NameSet :=
  (tables.users.find? user).getD Dict.empty

/-- The grants on a path, none where the path is not kept. -/
def grantsOnPath (tables : GrantTables) (path : String) : PathGrants :=
  (tables.paths.find? path).getD Dict.empty

/-- The principals of a permission, none where the permission is not kept. -/
def holders (grants : PathGrants) (permission : String) : NameSet :=
  (grants.find? permission).getD Dict.empty

/-- The links of users to principals. -/
def links (tables : GrantTables) : Set Link :=
  {link | (tables.principalsOfUser link.user).contains link.principal = true}

/-- The permissions given to principals. -/
def gifts (tables : GrantTables) : Set Gift :=
  {gift | (holders (tables.grantsOnPath gift.path) gift.permission).contains gift.principal = true}

theorem mem_links {tables : GrantTables} {link : Link} :
    link ∈ tables.links ↔
      (tables.principalsOfUser link.user).contains link.principal = true := Iff.rfl

theorem mem_gifts {tables : GrantTables} {gift : Gift} : gift ∈ tables.gifts ↔
    (holders (tables.grantsOnPath gift.path) gift.permission).contains gift.principal = true :=
  Iff.rfl

theorem mem_gifts_iff_any (tables : GrantTables) (grant : Grant) (principal : String) :
    ⟨grant.path.text, grant.permission, principal⟩ ∈ tables.gifts ↔
      (tables.principalsOf? grant).any (·.contains principal) = true := by
  rw [mem_gifts, grantsOnPath, principalsOf?]
  cases tables.paths.find? grant.path.text with
  | none => simp [holders]
  | some grants =>
    cases found : grants.find? grant.permission with
    | none => simp [holders, found]
    | some principals => simp [holders, found]

theorem links_empty : GrantTables.empty.links = ∅ := by
  ext link
  simp [mem_links, principalsOfUser, GrantTables.empty]

theorem gifts_empty : GrantTables.empty.gifts = ∅ := by
  ext gift
  simp [mem_gifts, grantsOnPath, holders, GrantTables.empty]

end GrantTables

namespace GrantOp

/-- The gifts that a set of grants names on a path. -/
def named (path : Path) (set : GrantSet) : Set Gift :=
  {gift | gift.path = path.text ∧
    ∃ principals, set.find? gift.permission = some principals ∧ gift.principal ∈ principals}

/-- The links after an operation. -/
def linksAfter (links : Set Link) : GrantOp → Set Link
  | .flush => ∅
  | .linkUsers principal users =>
    links ∪ {link | link.user ∈ users ∧ link.principal = principal}
  | .unlinkUsers principal users =>
    links \ {link | link.user ∈ users ∧ link.principal = principal}
  | .purgePrincipals principals => links \ {link | link.principal ∈ principals}
  | _ => links

/-- The gifts after an operation. -/
def giftsAfter (gifts : Set Gift) : GrantOp → Set Gift
  | .flush => ∅
  | .give principal grant => gifts ∪ {⟨grant.path.text, grant.permission, principal⟩}
  | .take principal grant => gifts \ {⟨grant.path.text, grant.permission, principal⟩}
  | .giveAll path set => gifts ∪ named path set
  | .replaceAll path set =>
    gifts \ {gift | gift.path = path.text ∧ gift.permission ∈ set.keys} ∪ named path set
  | .takeBelow roots =>
    gifts \ {gift | ∃ root ∈ roots,
      gift.path = root.text ∨ root.text.toList ++ ['/'] <+: gift.path.toList}
  | _ => gifts

/-- Replacing nothing leaves the gifts as they are. -/
theorem giftsAfter_replaceAll_nothing (gifts : Set Gift) (path : Path) {set : GrantSet}
    (empty : set.isEmpty = true) : giftsAfter gifts (.replaceAll path set) = gifts := by
  have nothing := (Dict.isEmpty_iff set).1 empty
  ext gift
  simp [giftsAfter, named, Dict.mem_keys_iff, Dict.contains, nothing]

end GrantOp

namespace GrantSession

open GrantTables (holders)

/-! ## Edits -/

theorem getD_nonempty {α : Type} (dict : Dict α) : (nonempty dict).getD Dict.empty = dict := by
  unfold nonempty
  split
  · rename_i empty
    refine Dict.ext fun name => ?_
    rw [(Dict.isEmpty_iff dict).1 empty name]
    rfl
  · rfl

theorem mem_links_editUser (session : GrantSession) (change : NameSet → NameSet) (user : String)
    (link : Link) : link ∈ (session.editUser change user).tables.links ↔
      if link.user = user then
        (change (session.tables.principalsOfUser user)).contains link.principal = true
      else link ∈ session.tables.links := by
  rw [tables_editUser, GrantTables.mem_links, GrantTables.mem_links, GrantTables.principalsOfUser,
    Dict.find?_assign]
  split
  · rw [getD_nonempty]
    rfl
  · rfl

@[simp] theorem gifts_editUser (session : GrantSession) (change : NameSet → NameSet)
    (user : String) : (session.editUser change user).tables.gifts = session.tables.gifts := by
  rw [tables_editUser]
  rfl

/-- Without the permissions that have no principals, the principals of every permission stay. -/
theorem holders_filter (grants : PathGrants) (permission : String) :
    holders (grants.filter fun _ principals => !principals.isEmpty) permission =
      holders grants permission := by
  unfold holders
  rw [Dict.find?_filter]
  cases grants.find? permission with
  | none => rfl
  | some principals =>
    cases empty : principals.isEmpty with
    | true => simpa [Option.filter, empty, nonempty] using getD_nonempty principals
    | false => simp [Option.filter, empty]

theorem mem_gifts_editPath (session : GrantSession) (change : PathGrants → PathGrants)
    (path : String) (gift : Gift) : gift ∈ (session.editPath change path).tables.gifts ↔
      if gift.path = path then
        (holders (change (session.tables.grantsOnPath path)) gift.permission).contains
          gift.principal = true
      else gift ∈ session.tables.gifts := by
  rw [tables_editPath, GrantTables.mem_gifts, GrantTables.mem_gifts, GrantTables.grantsOnPath,
    Dict.find?_assign]
  split
  · rw [getD_nonempty, holders_filter]
    rfl
  · rfl

@[simp] theorem links_editPath (session : GrantSession) (change : PathGrants → PathGrants)
    (path : String) : (session.editPath change path).tables.links = session.tables.links := by
  rw [tables_editPath]
  rfl

theorem mem_gifts_drop (session : GrantSession) (path : String) (gift : Gift) :
    gift ∈ (session.drop path).tables.gifts ↔ gift ∈ session.tables.gifts ∧ gift.path ≠ path := by
  rw [tables_drop, GrantTables.mem_gifts, GrantTables.mem_gifts, GrantTables.grantsOnPath,
    Dict.find?_erase]
  by_cases same : gift.path = path
  · simp [same, holders]
  · simp [same, GrantTables.grantsOnPath]

@[simp] theorem links_drop (session : GrantSession) (path : String) :
    (session.drop path).tables.links = session.tables.links := by
  rw [tables_drop]
  rfl

/-- What no step of a fold changes is the same before and after the fold. -/
theorem eq_foldl {α β : Type} (view : GrantSession → β) {f : GrantSession → α → GrantSession}
    (step : ∀ session item, view (f session item) = view session) (items : List α)
    (session : GrantSession) : view (items.foldl f session) = view session := by
  induction items generalizing session with
  | nil => rfl
  | cons item rest ih => rw [List.foldl_cons, ih, step]

/-! ## Links -/

theorem links_linkUsers (principal : String) (users : List String) (session : GrantSession) :
    (users.foldl (editUser (·.add principal)) session).tables.links =
      session.tables.links ∪ {link | link.user ∈ users ∧ link.principal = principal} := by
  induction users generalizing session with
  | nil => simp
  | cons user rest ih =>
    rw [List.foldl_cons, ih]
    ext link
    simp only [Set.mem_union, Set.mem_ofPred_eq, List.mem_cons, mem_links_editUser,
      NameSet.contains_add]
    split
    · rename_i same
      subst same
      simp only [← GrantTables.mem_links, true_or, true_and]
      grind
    · grind

theorem mem_links_unlink (principal : String) (session : GrantSession) (user : String)
    (link : Link) : link ∈ (unlink principal session user).tables.links ↔
      link ∈ session.tables.links ∧ ¬(link.user = user ∧ link.principal = principal) := by
  unfold unlink
  split
  · rw [mem_links_editUser, NameSet.contains_erase]
    split
    · rename_i same
      subst same
      rw [← GrantTables.mem_links]
      grind
    · grind
  · rename_i missing
    refine ⟨fun linked => ⟨linked, fun same => missing ?_⟩, And.left⟩
    rw [GrantTables.mem_links, GrantTables.principalsOfUser, same.1] at linked
    unfold Dict.contains
    cases found : session.tables.users.find? user with
    | none => simp [found] at linked
    | some _ => rfl

theorem links_unlinkUsers (principal : String) (users : List String) (session : GrantSession) :
    (users.foldl (unlink principal) session).tables.links =
      session.tables.links \ {link | link.user ∈ users ∧ link.principal = principal} := by
  induction users generalizing session with
  | nil => ext link; simp
  | cons user rest ih =>
    rw [List.foldl_cons, ih]
    ext link
    simp only [Set.mem_sdiff, Set.mem_ofPred_eq, List.mem_cons, mem_links_unlink]
    grind

theorem contains_without (names : NameSet) (principals : List String) (name : String) :
    (without names principals).contains name = true ↔
      names.contains name = true ∧ name ∉ principals := by
  unfold without
  induction principals generalizing names with
  | nil => simp
  | cons principal rest ih =>
    rw [List.foldl_cons, ih, NameSet.contains_erase, List.mem_cons]
    grind

theorem links_purge (principals users : List String) (session : GrantSession) :
    (users.foldl (editUser (without · principals)) session).tables.links =
      session.tables.links \ {link | link.user ∈ users ∧ link.principal ∈ principals} := by
  induction users generalizing session with
  | nil => ext link; simp
  | cons user rest ih =>
    rw [List.foldl_cons, ih]
    ext link
    simp only [Set.mem_sdiff, Set.mem_ofPred_eq, List.mem_cons, mem_links_editUser,
      contains_without]
    split
    · rename_i same
      subst same
      rw [← GrantTables.mem_links]
      grind
    · grind

/-- Every user that is linked to one of the principals is found. -/
theorem mem_usersOf {session : GrantSession} {principals : List String} {link : Link}
    (linked : link ∈ session.tables.links) (listed : link.principal ∈ principals) :
    link.user ∈ session.usersOf principals := by
  rw [GrantTables.mem_links, GrantTables.principalsOfUser] at linked
  cases found : session.tables.users.find? link.user with
  | none => simp [found] at linked
  | some names =>
    rw [found, Option.getD_some] at linked
    refine List.mem_map.2 ⟨(link.user, names), List.mem_filter.2 ⟨?_, ?_⟩, rfl⟩
    · exact (Dict.mem_entries_iff _ _ _).2 found
    · exact List.any_eq_true.2 ⟨link.principal, listed, linked⟩

/-- The links after an operation are as its definition says. -/
theorem links_run (session : GrantSession) (op : GrantOp) :
    (session.run op).2.tables.links = op.linksAfter session.tables.links := by
  cases op with
  | flush => exact GrantTables.links_empty
  | linkUsers principal users => exact links_linkUsers principal users session
  | unlinkUsers principal users => exact links_unlinkUsers principal users session
  | purgePrincipals principals =>
    simp only [run]
    split
    · rename_i empty
      rw [List.isEmpty_iff.1 empty]
      ext link
      simp [GrantOp.linksAfter]
    · refine (links_purge principals _ session).trans ?_
      ext link
      simp only [GrantOp.linksAfter, Set.mem_sdiff, Set.mem_ofPred_eq]
      exact and_congr_right fun linked =>
        not_congr ⟨And.right, fun listed => ⟨mem_usersOf linked listed, listed⟩⟩
  | give principal grant => exact links_editPath ..
  | take principal grant =>
    simp only [run]
    split
    · exact links_editPath ..
    · rfl
  | giveAll path set | replaceAll path set =>
    simp only [run]
    split
    · rfl
    · exact links_editPath ..
  | takeBelow roots => exact eq_foldl (fun session => session.tables.links) links_drop _ _
  | userPrincipals _ | principalsOf _ | principalsOfAny _ | grantsOn _ | accessiblePaths _ _
  | size => rfl

/-! ## Gifts -/

theorem holders_insert (grants : PathGrants) (permission other : String) (principals : NameSet) :
    holders (grants.insert permission principals) other =
      if other = permission then principals else holders grants other := by
  rw [holders, Dict.find?_insert]
  split <;> rfl

/-- Adding entries one by one: a permission has the principals that some entry adds to it. -/
theorem contains_foldl_addTo (entries : List (String × List String)) (grants : PathGrants)
    (permission principal : String) :
    (holders (entries.foldl addTo grants) permission).contains principal = true ↔
      (holders grants permission).contains principal = true ∨
        ∃ principals, (permission, principals) ∈ entries ∧ principal ∈ principals := by
  induction entries generalizing grants with
  | nil => simp
  | cons entry rest ih =>
    have first : (holders (addTo grants entry) permission).contains principal = true ↔
        (holders grants permission).contains principal = true ∨
          permission = entry.1 ∧ principal ∈ entry.2 := by
      rw [addTo, holders_insert]
      split
      · rename_i same
        rw [NameSet.contains_addAll, ← holders, same]
        grind
      · grind
    rw [List.foldl_cons, ih, first]
    obtain ⟨other, principals⟩ := entry
    grind

/-- Replacing permissions one by one: a permission that is named has exactly the principals
named for it, and every other one those that it had. -/
theorem holders_foldl_replace {entries : Assoc (List String)} (sorted : Assoc.Sorted entries)
    (grants : PathGrants) (permission : String) :
    holders (entries.foldl replace grants) permission =
      match Assoc.find? permission entries with
      | some principals => NameSet.ofNames principals
      | none => holders grants permission := by
  induction entries generalizing grants with
  | nil => rfl
  | cons entry rest ih =>
    have absent := Assoc.Sorted.find?_tail sorted
    obtain ⟨_, tail⟩ := List.pairwise_cons.1 sorted
    rw [List.foldl_cons, ih tail, replace, holders_insert]
    by_cases same : entry.1 = permission
    · rw [same] at absent
      simp [Assoc.find?, same, absent]
    · simp [Assoc.find?, same, Ne.symm same]

theorem gifts_give (session : GrantSession) (principal : String) (grant : Grant) :
    (session.editPath (addTo · (grant.permission, [principal])) grant.path.text).tables.gifts =
      session.tables.gifts ∪ {⟨grant.path.text, grant.permission, principal⟩} := by
  ext ⟨path, permission, other⟩
  have added := contains_foldl_addTo [(grant.permission, [principal])]
    (session.tables.grantsOnPath path) permission other
  simp only [List.foldl_cons, List.foldl_nil] at added
  simp only [mem_gifts_editPath, Set.mem_union, Set.mem_singleton_iff, Gift.mk.injEq]
  split
  · rename_i same
    subst same
    rw [added, GrantTables.mem_gifts]
    grind
  · grind

theorem gifts_giveAll (session : GrantSession) (path : Path) (set : GrantSet) :
    (session.editPath (set.entries.foldl addTo ·) path.text).tables.gifts =
      session.tables.gifts ∪ GrantOp.named path set := by
  ext ⟨other, permission, principal⟩
  have added := contains_foldl_addTo set.entries (session.tables.grantsOnPath other) permission
    principal
  simp only [mem_gifts_editPath, Set.mem_union, GrantOp.named, Set.mem_ofPred_eq]
  split
  · rename_i same
    subst same
    simp only [added, Dict.mem_entries_iff, GrantTables.mem_gifts, true_and]
  · grind

theorem gifts_replaceAll (session : GrantSession) (path : Path) (set : GrantSet) :
    (session.editPath (set.entries.foldl replace ·) path.text).tables.gifts =
      session.tables.gifts \ {gift | gift.path = path.text ∧ gift.permission ∈ set.keys} ∪
        GrantOp.named path set := by
  ext ⟨other, permission, principal⟩
  have replaced : holders (set.entries.foldl replace (session.tables.grantsOnPath other))
      permission = match set.find? permission with
        | some principals => NameSet.ofNames principals
        | none => holders (session.tables.grantsOnPath other) permission :=
    holders_foldl_replace set.sorted _ permission
  have key : permission ∈ set.keys ↔ (set.find? permission).isSome = true :=
    Dict.mem_keys_iff set permission
  simp only [mem_gifts_editPath, Set.mem_union, Set.mem_sdiff, GrantOp.named, Set.mem_ofPred_eq,
    key]
  split
  · rename_i same
    subst same
    rw [replaced]
    cases set.find? permission with
    | none => simp [GrantTables.mem_gifts]
    | some principals => simp [NameSet.contains_ofNames]
  · grind

/-- What is taken from a path and a permission is one principal. -/
theorem gifts_take (session : GrantSession) (principal : String) (grant : Grant) :
    (session.editPath (fun grants => grants.insert grant.permission
      ((holders grants grant.permission).erase principal)) grant.path.text).tables.gifts =
      session.tables.gifts \ {⟨grant.path.text, grant.permission, principal⟩} := by
  ext ⟨path, permission, other⟩
  simp only [mem_gifts_editPath, Set.mem_sdiff, Set.mem_singleton_iff, Gift.mk.injEq,
    holders_insert]
  split
  · rename_i same
    subst same
    rw [GrantTables.mem_gifts]
    split
    · rename_i same
      subst same
      rw [NameSet.contains_erase]
      grind
    · grind
  · grind

theorem gifts_foldl_drop (paths : List String) (session : GrantSession) :
    (paths.foldl drop session).tables.gifts =
      session.tables.gifts \ {gift | gift.path ∈ paths} := by
  induction paths generalizing session with
  | nil => ext gift; simp
  | cons path rest ih =>
    rw [List.foldl_cons, ih]
    ext gift
    simp only [Set.mem_sdiff, Set.mem_ofPred_eq, List.mem_cons, mem_gifts_drop]
    grind

/-- Every path with a gift that is one of the roots or lies below one is found. -/
theorem mem_pathsBelow {session : GrantSession} {roots : List Path} {gift : Gift}
    (given : gift ∈ session.tables.gifts) : gift.path ∈ session.pathsBelow roots ↔
      ∃ root ∈ roots, gift.path = root.text ∨ root.text.toList ++ ['/'] <+: gift.path.toList := by
  have kept : gift.path ∈ session.tables.paths.keys := by
    rw [Dict.mem_keys_iff, Dict.contains]
    rw [GrantTables.mem_gifts, GrantTables.grantsOnPath] at given
    cases found : session.tables.paths.find? gift.path with
    | none => simp [found, holders] at given
    | some _ => rfl
  simp only [pathsBelow, List.mem_filter, kept, true_and, List.any_eq_true, isAtOrBelow,
    Bool.or_eq_true, beq_iff_eq, List.isPrefixOf_iff_prefix]
  refine exists_congr fun root => and_congr_right fun _ => or_congr_left ?_
  cases root
  simp

/-- The gifts after an operation are as its definition says. -/
theorem gifts_run (session : GrantSession) (op : GrantOp) :
    (session.run op).2.tables.gifts = op.giftsAfter session.tables.gifts := by
  cases op with
  | flush => exact GrantTables.gifts_empty
  | linkUsers principal users =>
    exact eq_foldl (fun session => session.tables.gifts) (gifts_editUser · _ ·) _ _
  | unlinkUsers principal users =>
    refine eq_foldl (fun session => session.tables.gifts) (fun session user => ?_) _ _
    unfold unlink
    split
    · exact gifts_editUser ..
    · rfl
  | purgePrincipals principals =>
    simp only [run]
    split
    · rfl
    · exact eq_foldl (fun session => session.tables.gifts) (gifts_editUser · _ ·) _ _
  | give principal grant => exact gifts_give session principal grant
  | take principal grant =>
    simp only [run]
    split
    · exact gifts_take session principal grant
    · rename_i missing
      refine (Set.sdiff_singleton_eq_self fun given => missing ?_).symm
      exact (GrantTables.mem_gifts_iff_any session.tables grant principal).1 given
  | giveAll path set =>
    simp only [run]
    split
    · rename_i empty
      refine (Set.union_eq_left.2 ?_).symm
      rintro gift ⟨_, principals, found, listed⟩
      have none : principals.isEmpty = true :=
        List.all_eq_true.1 empty principals ((Dict.mem_values_iff _ _).2 ⟨_, found⟩)
      rw [List.isEmpty_iff.1 none] at listed
      cases listed
    · exact gifts_giveAll session path set
  | replaceAll path set =>
    simp only [run]
    split
    · rename_i empty
      exact (GrantOp.giftsAfter_replaceAll_nothing _ path empty).symm
    · exact gifts_replaceAll session path set
  | takeBelow roots =>
    refine (gifts_foldl_drop _ session).trans ?_
    ext gift
    simp only [GrantOp.giftsAfter, Set.mem_sdiff, Set.mem_ofPred_eq]
    exact and_congr_right fun given => not_congr (mem_pathsBelow given)
  | userPrincipals _ | principalsOf _ | principalsOfAny _ | grantsOn _ | accessiblePaths _ _
  | size => rfl

end GrantSession
end DocStore
