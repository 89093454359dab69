import Mathlib.Data.List.Sort
import Mathlib.Data.Set.Card
import DocStore.Proofs.Memory.GrantRelations

/-!
# Answers about grants

What a store of grants is asked, it answers from two relations: every list is in increasing
order, names everything once and has exactly the members that the relations select
(`GrantOp.Answered`).  `run_acts_on_relations` puts this together with what operations make of
the relations, for every state that a store can reach.
-/

namespace DocStore

/-- A list of the members of a set, in increasing order and each of them once. -/
structure Lists (names : List String) (members : Set String) : Prop where
  increasing : names.Pairwise (· < ·)
  mem_iff : ∀ name, name ∈ names ↔ name ∈ members

/-- A set is listed in one way. -/
theorem Lists.unique {first second : List String} {members : Set String}
    (left : Lists first members) (right : Lists second members) : first = second :=
  left.increasing.eq_of_mem_iff right.increasing fun name =>
    (left.mem_iff name).trans (right.mem_iff name).symm

theorem Dict.lists_keys {α : Type} {dict : Dict α} {members : Set String}
    (same : ∀ name, dict.contains name = true ↔ name ∈ members) : Lists dict.keys members :=
  ⟨dict.pairwise_keys, fun name => (dict.mem_keys_iff name).trans (same name)⟩

/-- Whether a user has a principal without any link: itself, that of every user, and that of every
user that is known unless the user stands for every user. -/
def HasImplicitly (user principal : String) : Prop :=
  principal = user ∨ principal = everyone ∨ user ≠ everyone ∧ principal = authenticated

/-- A gift that one of several grants matches. -/
def Gift.MatchedBy (grants : List Grant) (gift : Gift) : Prop :=
  ∃ grant ∈ grants, grant.permission = gift.permission ∧ grant.path.contains ⟨gift.path⟩ = true

/-- What an operation answers, from the links and the gifts before it. -/
def GrantOp.Answered (links : Set Link) (gifts : Set Gift) : GrantOp → GrantAnswer → Prop
  | .userPrincipals user, .names names =>
    Lists names {principal | HasImplicitly user principal ∨
      ∃ other, HasImplicitly user other ∧ ⟨other, principal⟩ ∈ links}
  | .principalsOf grant, .names names =>
    Lists names {principal | ⟨grant.path.text, grant.permission, principal⟩ ∈ gifts}
  | .principalsOfAny grants, .names names =>
    Lists names {principal | ∃ gift ∈ gifts, gift.MatchedBy grants ∧ gift.principal = principal}
  | .accessiblePaths principals grants, .names names =>
    Lists names {path | ∃ gift ∈ gifts, gift.MatchedBy grants ∧ gift.principal ∈ principals ∧
      gift.path = path}
  | .grantsOn path, .grants set => ∀ permission,
    Lists ((set.find? permission).getD [])
      {principal | ⟨path.text, permission, principal⟩ ∈ gifts} ∧
    set.find? permission ≠ some []
  | .size, .number count => count = links.ncard + gifts.ncard
  | .flush, .done | .linkUsers _ _, .done | .unlinkUsers _ _, .done | .purgePrincipals _, .done
  | .give _ _, .done | .take _ _, .done | .giveAll _ _, .done | .replaceAll _ _, .done
  | .takeBelow _, .done => True
  | _, _ => False

namespace GrantTables

variable (tables : GrantTables)

/-! ## Selections -/

theorem mem_linked (user principal : String) :
    principal ∈ tables.linked user ↔ ⟨user, principal⟩ ∈ tables.links := by
  rw [mem_links, linked, principalsOfUser]
  cases tables.users.find? user with
  | none => simp
  | some principals => exact Dict.mem_keys_iff principals principal

theorem lists_userPrincipals (user : String) : Lists (tables.userPrincipals user)
    {principal | HasImplicitly user principal ∨
      ∃ other, HasImplicitly user other ∧ ⟨other, principal⟩ ∈ tables.links} := by
  refine Dict.lists_keys fun principal => ?_
  have different : everyone ≠ authenticated := by decide
  have own : ((NameSet.ofNames (tables.linked user)).add user).contains principal = true ↔
      principal = user ∨ ⟨user, principal⟩ ∈ tables.links := by
    rw [NameSet.contains_add, NameSet.contains_ofNames, mem_linked]
  simp only [Set.mem_ofPred_eq, HasImplicitly]
  split
  case isTrue all =>
    subst all
    rw [own]
    grind
  case isFalse one =>
    split
    case isTrue known =>
      subst known
      rw [NameSet.contains_addAll, NameSet.contains_add, own, mem_linked]
      grind
    case isFalse other =>
      rw [NameSet.contains_addAll, NameSet.contains_addAll, NameSet.contains_add,
        NameSet.contains_add, own, mem_linked, mem_linked]
      grind

theorem lists_principalsOf (grant : Grant) :
    Lists (((tables.principalsOf? grant).map Dict.keys).getD [])
      {principal | ⟨grant.path.text, grant.permission, principal⟩ ∈ tables.gifts} := by
  simp only [mem_gifts_iff_any]
  cases tables.principalsOf? grant with
  | none => exact ⟨.nil, by simp⟩
  | some principals => exact Dict.lists_keys fun principal => by simp

/-- A gift is an entry of an entry of the paths that are kept. -/
theorem mem_gifts_iff (gift : Gift) : gift ∈ tables.gifts ↔
    ∃ grants, (gift.path, grants) ∈ tables.paths.entries ∧
      ∃ principals, (gift.permission, principals) ∈ grants.entries ∧
        gift.principal ∈ principals.keys := by
  simp only [mem_gifts, grantsOnPath, holders, Dict.mem_entries_iff, Dict.mem_keys_iff]
  cases tables.paths.find? gift.path with
  | none => simp
  | some grants =>
    cases found : grants.find? gift.permission with
    | none => simp [found]
    | some principals => simp [found]

theorem lists_principalsOfAny (grants : List Grant) : Lists (tables.principalsOfAny grants)
    {principal | ∃ gift ∈ tables.gifts, gift.MatchedBy grants ∧ gift.principal = principal} := by
  refine Dict.lists_keys fun principal => ?_
  rw [NameSet.contains_ofNames]
  simp only [matching, List.mem_flatMap, List.mem_filter, Set.mem_ofPred_eq, mem_gifts_iff,
    Gift.MatchedBy]
  constructor
  · rintro ⟨⟨path, onPath⟩, kept, grant, ⟨asked, matched⟩, held⟩
    cases found : onPath.find? grant.permission with
    | none => simp [found] at held
    | some principals =>
      refine ⟨⟨path, grant.permission, principal⟩, ⟨onPath, kept, principals, ?_, ?_⟩,
        ⟨grant, asked, rfl, matched⟩, rfl⟩
      · exact (Dict.mem_entries_iff _ _ _).2 found
      · simpa [found] using held
  · rintro ⟨gift, ⟨onPath, kept, principals, permitted, held⟩, ⟨grant, asked, same, matched⟩, rfl⟩
    refine ⟨(gift.path, onPath), kept, grant, ⟨asked, matched⟩, ?_⟩
    have found := (Dict.mem_entries_iff _ _ _).1 permitted
    simpa [same, found] using held

theorem lists_accessiblePaths (principals : List String) (grants : List Grant) :
    Lists (tables.accessiblePaths principals grants)
      {path | ∃ gift ∈ tables.gifts, gift.MatchedBy grants ∧ gift.principal ∈ principals ∧
        gift.path = path} := by
  unfold accessiblePaths
  split
  case isTrue empty =>
    refine ⟨.nil, fun path => ?_⟩
    rcases Bool.or_eq_true_iff.1 empty with nobody | nothing
    · simp [List.isEmpty_iff.1 nobody]
    · simp [List.isEmpty_iff.1 nothing, Gift.MatchedBy]
  case isFalse =>
    refine ⟨?_, fun path => ?_⟩
    · refine List.Pairwise.sublist (List.Sublist.map _ List.filter_sublist) ?_
      exact tables.paths.pairwise_keys
    · simp only [isAccessible, List.mem_map, List.mem_filter, List.any_eq_true,
        Bool.and_eq_true, beq_iff_eq, Set.mem_ofPred_eq, mem_gifts_iff, Gift.MatchedBy]
      constructor
      · rintro ⟨⟨path, onPath⟩, ⟨kept, ⟨permission, holders⟩, permitted,
          ⟨grant, asked, same, matched⟩, principal, wanted, held⟩, rfl⟩
        exact ⟨⟨path, permission, principal⟩,
          ⟨onPath, kept, holders, permitted, (Dict.mem_keys_iff _ _).2 held⟩,
          ⟨grant, asked, same, matched⟩, wanted, rfl⟩
      · rintro ⟨gift, ⟨onPath, kept, holders, permitted, held⟩, ⟨grant, asked, same, matched⟩,
          wanted, rfl⟩
        exact ⟨(gift.path, onPath), ⟨kept, (gift.permission, holders), permitted,
          ⟨grant, asked, same, matched⟩, gift.principal, wanted,
          (Dict.mem_keys_iff _ _).1 held⟩, rfl⟩

/-- The grants on a path as they are answered. -/
theorem find?_listed (grants : PathGrants) (permission : String) :
    (Dict.ofList (grants.entries.map fun entry => (entry.1, entry.2.keys))).find? permission =
      (grants.find? permission).map Dict.keys := by
  have sorted : Assoc.Sorted (grants.entries.map fun entry => (entry.1, entry.2.keys)) := by
    rw [Assoc.Sorted, List.pairwise_map]
    exact grants.sorted
  have same := Assoc.ofList_eq_self sorted
  refine Option.ext fun names => ?_
  rw [← Dict.mem_entries_iff, Dict.ofList]
  simp only [same, List.mem_map, Prod.exists, Prod.mk.injEq, Dict.mem_entries_iff,
    Option.map_eq_some_iff]
  grind

theorem lists_grantsOn {tables : GrantTables} (tidy : tables.Tidy) (path permission : String) :
    let answered := Dict.ofList
      ((tables.grantsOnPath path).entries.map fun entry => (entry.1, entry.2.keys))
    Lists ((answered.find? permission).getD [])
        {principal | ⟨path, permission, principal⟩ ∈ tables.gifts} ∧
      answered.find? permission ≠ some [] := by
  simp only [find?_listed]
  refine ⟨?_, fun empty => ?_⟩
  · have same := tables.lists_principalsOf ⟨permission, ⟨path⟩⟩
    unfold principalsOf? at same
    unfold grantsOnPath
    cases found : tables.paths.find? path with
    | none => simpa [found] using same
    | some grants => simpa [found] using same
  · obtain ⟨principals, found, none⟩ := Option.map_eq_some_iff.1 empty
    unfold grantsOnPath at found
    cases kept : tables.paths.find? path with
    | none => simp [kept] at found
    | some grants =>
      rw [kept, Option.getD_some] at found
      have filled := tidy.permissions path grants permission principals kept found
      rw [Dict.isEmpty, List.map_eq_nil_iff.1 none] at filled
      cases filled

/-! ## Counting -/

/-- What is listed under the names of a dictionary is listed once, if that is so under every
name and what is listed tells the name. -/
theorem nodup_flatMap_entries {α β : Type} (dict : Dict α) {items : String × α → List β}
    (name : β → String) (named : ∀ entry, ∀ item ∈ items entry, name item = entry.1)
    (each : ∀ entry, (items entry).Nodup) : (dict.entries.flatMap items).Nodup := by
  refine List.nodup_flatMap.2 ⟨fun entry _ => each entry, ?_⟩
  refine List.Pairwise.imp (fun {left right} less => ?_) dict.sorted
  intro item inLeft inRight
  have same : left.1 = right.1 := (named left item inLeft).symm.trans (named right item inRight)
  exact String.lt_irrefl _ (same ▸ less)

theorem ncard_of_list {α : Type} {members : Set α} {items : List α} (nodup : items.Nodup)
    (mem_iff : ∀ item, item ∈ items ↔ item ∈ members) : members.ncard = items.length := by
  classical
  have same : members = (items.toFinset : Set α) := by
    ext item
    simp [mem_iff]
  rw [same, Set.ncard_coe_finset, List.toFinset_card_of_nodup nodup]

/-- The sizes of the values add up to the number of what is listed under the names. -/
theorem length_flatMap_entries {α β : Type} (dict : Dict α) {items : String × α → List β}
    {size : α → Nat} (each : ∀ entry, (items entry).length = size entry.2) :
    (dict.entries.flatMap items).length = (dict.values.map size).sum := by
  rw [List.length_flatMap, Dict.values, List.map_map]
  exact congrArg List.sum (List.map_congr_left fun entry _ => each entry)

/-- The links in the order of their users. -/
def linkList : List Link :=
  tables.users.entries.flatMap fun entry => entry.2.keys.map (Link.mk entry.1)

/-- The gifts on a path in the order of their permissions. -/
def giftListOf (entry : String × PathGrants) : List Gift :=
  entry.2.entries.flatMap fun permitted =>
    permitted.2.keys.map (Gift.mk entry.1 permitted.1)

/-- The gifts in the order of their paths. -/
def giftList : List Gift := tables.paths.entries.flatMap giftListOf

theorem ncard_links : tables.links.ncard = (tables.users.values.map Dict.size).sum := by
  have nodup : tables.linkList.Nodup := by
    refine nodup_flatMap_entries tables.users Link.user (by simp) fun entry => ?_
    exact entry.2.nodup_keys.map fun left right same => (Link.mk.inj same).2
  have mem_iff : ∀ link, link ∈ tables.linkList ↔ link ∈ tables.links := by
    intro ⟨user, principal⟩
    rw [← mem_linked, linked]
    cases found : tables.users.find? user <;> simp [linkList, Dict.mem_entries_iff, found]
  rw [ncard_of_list nodup mem_iff]
  exact length_flatMap_entries tables.users fun entry => by simp [Dict.keys, Dict.size]

theorem ncard_gifts : tables.gifts.ncard =
    (tables.paths.values.map fun grants => (grants.values.map Dict.size).sum).sum := by
  have nodup : tables.giftList.Nodup := by
    refine nodup_flatMap_entries tables.paths Gift.path ?_ fun entry => ?_
    · intro entry gift listed
      simp only [giftListOf, List.mem_flatMap, List.mem_map] at listed
      obtain ⟨_, _, _, _, rfl⟩ := listed
      rfl
    refine nodup_flatMap_entries entry.2 Gift.permission (by simp) fun permitted => ?_
    exact permitted.2.nodup_keys.map fun left right same => (Gift.mk.inj same).2.2
  have mem_iff : ∀ gift, gift ∈ tables.giftList ↔ gift ∈ tables.gifts := by
    intro ⟨path, permission, principal⟩
    rw [mem_gifts_iff]
    simp [giftList, giftListOf]
  rw [ncard_of_list nodup mem_iff]
  refine length_flatMap_entries tables.paths fun entry => ?_
  exact length_flatMap_entries entry.2 fun permitted => by simp [Dict.keys, Dict.size]

/-- The size is the number of links and gifts. -/
theorem size_eq : tables.size = tables.links.ncard + tables.gifts.ncard := by
  rw [ncard_links, ncard_gifts, size, ← List.sum_eq_foldr, ← List.sum_eq_foldr, List.flatMap,
    List.sum_flatten, List.map_map]
  rfl

end GrantTables

/-! ## Runs -/

/-- What an operation answers is what the relations select. -/
theorem GrantSession.answered_run {session : GrantSession} (tidy : session.tables.Tidy)
    (op : GrantOp) :
    op.Answered session.tables.links session.tables.gifts (session.run op).1 := by
  cases op with
  | userPrincipals user => exact session.tables.lists_userPrincipals user
  | principalsOf grant => exact session.tables.lists_principalsOf grant
  | principalsOfAny grants => exact session.tables.lists_principalsOfAny grants
  | accessiblePaths principals grants =>
    exact session.tables.lists_accessiblePaths principals grants
  | grantsOn path => exact fun permission => GrantTables.lists_grantsOn tidy path.text permission
  | size => exact congrArg Int.ofNat session.tables.size_eq
  | take _ _ | giveAll _ _ | replaceAll _ _ | purgePrincipals _ =>
    simp only [run]
    split <;> trivial
  | flush | linkUsers _ _ | unlinkUsers _ _ | give _ _ | takeBelow _ => trivial

namespace SerialStore

theorem tidy_tables (moves : List (Move grantEngine)) :
    ((@SerialStore.start grantEngine GrantTables.empty).play moves).tables.Tidy := by
  have tidy := tidy_play moves
  unfold tables
  cases locked : ((@SerialStore.start grantEngine GrantTables.empty).play moves).lock with
  | free content => rwa [locked] at tidy
  | held client session =>
    rw [locked] at tidy
    exact tidy.1

/-- In every state that a store of grants can reach, nothing empty is kept, and every
operation of an open transaction answers what the links and the gifts select and makes of them
what its definition says. -/
theorem run_acts_on_relations (moves : List (Move grantEngine)) :
    let store := (@SerialStore.start grantEngine GrantTables.empty).play moves
    store.tables.Tidy ∧
      ∀ client session surroundings op, store.session client = .ok session →
        ∃ answer next, store.run client surroundings op = .ok (answer, next) ∧
          op.Answered store.tables.links store.tables.gifts answer ∧
          next.tables.links = op.linksAfter store.tables.links ∧
          next.tables.gifts = op.giftsAfter store.tables.gifts := by
  intro store
  have tidy : store.tables.Tidy := tidy_tables moves
  refine ⟨tidy, fun client session surroundings op found => ?_⟩
  have current : store.tables = GrantSession.tables session := by
    unfold tables
    rw [lock_of_session found]
  have ran : store.run client surroundings op = .ok ((GrantSession.run session op).1,
      { store with lock := .held client (GrantSession.run session op).2 }) :=
    run_of_ok found (rfl : grantEngine.run session surroundings op = .ok _)
  rw [current] at tidy ⊢
  exact ⟨_, _, ran, GrantSession.answered_run tidy op, GrantSession.links_run session op,
    GrantSession.gifts_run session op⟩

/-- A committed transaction links a user twice and gives a permission and an empty list of
principals; in the next one, replacing the last principal of a path by none takes the path out,
and taking a path takes what lies below it. -/
theorem run_acts_on_relations_pruned :
    let store := (@SerialStore.start grantEngine GrantTables.empty).play
      [.begin "c", .run "c" ⟨⟨0⟩, fun _ => ""⟩ (.linkUsers "group" ["u", "v", "u"]),
        .run "c" ⟨⟨0⟩, fun _ => ""⟩ (.give "group" ⟨"read", ⟨"/a/b"⟩⟩),
        .run "c" ⟨⟨0⟩, fun _ => ""⟩ (.giveAll ⟨"/c"⟩ (Dict.ofList [("read", []), ("write", ["u"])])),
        .commit "c", .begin "d",
        .run "d" ⟨⟨0⟩, fun _ => ""⟩ (.replaceAll ⟨"/c"⟩ (Dict.ofList [("write", [])]))]
    let op : GrantOp := .takeBelow [⟨"/a"⟩]
    store.tables.paths.keys = ["/a/b"] ∧
      ∃ answer next, store.run "d" ⟨⟨0⟩, fun _ => ""⟩ op = .ok (answer, next) ∧
        op.Answered store.tables.links store.tables.gifts answer ∧
        next.tables.links = op.linksAfter store.tables.links ∧
        next.tables.gifts = op.giftsAfter store.tables.gifts := by
  intro store op
  exact ⟨by decide +kernel, (run_acts_on_relations _).2 "d" _ _ op rfl⟩

end SerialStore
end DocStore
