import Mathlib.Algebra.GroupWithZero.Nat
import Mathlib.Data.List.Nodup
import Mathlib.Data.Prod.Lex
import Mathlib.Data.String.Basic
import DocStore.Proofs.Memory.Sound

/-!
# What holdings contain

The documents of a shelf as one list, each with its collection, and their keys in order.
-/

namespace DocStore

namespace Shelf

/-- The documents of a shelf, each with its collection. -/
def contents (shelf : Shelf) : List (String × Document) :=
  shelf.entries.flatMap fun entry =>
    entry.2.documents.values.map fun document => (entry.1, document)

/-- The keys of the documents in some collections: a document's collection and identifier. -/
def keysIn (shelf : Shelf) (names : List String) : List (String × String) :=
  names.flatMap fun name => (shelf.collection name).documents.keys.map fun id => (name, id)

variable (shelf : Shelf)

theorem mem_contents (name : String) (document : Document) :
    (name, document) ∈ shelf.contents ↔ ∃ id, shelf.find? name id = some document := by
  simp only [contents, List.mem_flatMap, List.mem_map, Prod.exists, Prod.mk.injEq,
    Dict.mem_values_iff, find?, Option.bind_eq_some_iff, Dict.mem_entries_iff]
  constructor
  · rintro ⟨_, collection, present, _, ⟨id, found⟩, rfl, rfl⟩
    exact ⟨id, collection, present, found⟩
  · rintro ⟨id, collection, present, found⟩
    exact ⟨name, collection, present, document, ⟨id, found⟩, rfl, rfl⟩

theorem keysIn_cons (name : String) (rest : List String) :
    shelf.keysIn (name :: rest) =
      ((shelf.collection name).documents.keys.map fun id => (name, id)) ++ shelf.keysIn rest :=
  List.flatMap_cons

theorem mem_keysIn (names : List String) (name id : String) :
    (name, id) ∈ shelf.keysIn names ↔ name ∈ names ∧ (shelf.find? name id).isSome = true := by
  simp only [keysIn, List.mem_flatMap, List.mem_map, Prod.mk.injEq, Dict.mem_keys_iff,
    Dict.contains, find?_eq]
  constructor
  · rintro ⟨_, member, _, found, rfl, rfl⟩
    exact ⟨member, found⟩
  · rintro ⟨member, found⟩
    exact ⟨name, member, id, found, rfl, rfl⟩

/-- In the order of their collections, the keys increase strictly. -/
theorem pairwise_keysIn {names : List String} (sorted : names.Pairwise (· < ·)) :
    (shelf.keysIn names).Pairwise fun left right => toLex left < toLex right := by
  refine List.pairwise_flatMap.2 ⟨fun name _ => ?_, sorted.imp fun {left right} less => ?_⟩
  · refine List.pairwise_map.2 ((Dict.pairwise_keys _).imp fun {left right} less => ?_)
    exact Prod.Lex.toLex_lt_toLex.2 (.inr ⟨rfl, less⟩)
  · intro first inLeft second inRight
    obtain ⟨_, _, rfl⟩ := List.mem_map.1 inLeft
    obtain ⟨_, _, rfl⟩ := List.mem_map.1 inRight
    exact Prod.Lex.toLex_lt_toLex.2 (.inl less)

theorem nodup_keysIn {names : List String} (sorted : names.Pairwise (· < ·)) :
    (shelf.keysIn names).Nodup := by
  refine (shelf.pairwise_keysIn sorted).imp fun {left right} less same => ?_
  rw [same] at less
  exact lt_irrefl _ less

theorem length_contents : shelf.contents.length = shelf.count := by
  simp [contents, count, List.length_flatMap, Dict.values, Dict.size, Function.comp_def,
    List.sum_eq_foldr]

/-- Counting documents collection by collection. -/
theorem countP_contents (test : String × Document → Bool) :
    shelf.contents.countP test = (shelf.entries.map fun entry =>
      entry.2.documents.values.countP fun document => test (entry.1, document)).sum := by
  simp [contents, List.countP_flatMap, Function.comp_def, List.countP_map]

variable {shelf} in
/-- Where documents stand under their own identifiers, their keys are those of the shelf. -/
theorem map_contents (labelled : ∀ {name id document},
    shelf.find? name id = some document → document.id = id) :
    (shelf.contents.map fun entry => (entry.1, entry.2.id)) = shelf.keysIn (Dict.keys shelf) := by
  rw [contents, List.map_flatMap, keysIn, Dict.keys, List.flatMap_map]
  refine List.flatMap_congr fun entry member => ?_
  have present := (Dict.mem_entries_iff shelf entry.1 entry.2).1 member
  have current : shelf.collection entry.1 = entry.2 := by simp [collection, present]
  rw [current, Dict.values, Dict.keys, List.map_map, List.map_map, List.map_map]
  refine List.map_congr_left fun item inside => ?_
  have found := (Dict.mem_entries_iff entry.2.documents item.1 item.2).1 inside
  have here : shelf.find? entry.1 item.1 = some item.2 := by simp [find?, present, found]
  simp [labelled here]

end Shelf

namespace Holdings

/-- The live documents and the tombstones, each with its collection. -/
def contents (holdings : Holdings) : List (String × Document) :=
  holdings.live.contents ++ holdings.dead.contents

variable {holdings : Holdings}

theorem Placed.mem_shelf_contents (placed : holdings.Placed) (deleted : Bool) (name : String)
    (document : Document) : (name, document) ∈ (holdings.shelf deleted).contents ↔
      document.deleted = deleted ∧
        (holdings.shelf document.deleted).find? name document.id = some document := by
  rw [Shelf.mem_contents]
  constructor
  · rintro ⟨id, found⟩
    obtain ⟨rfl, rfl⟩ := placed.labelled found
    exact ⟨rfl, found⟩
  · rintro ⟨rfl, found⟩
    exact ⟨_, found⟩

/-- A document is among the contents if it stands in its place. -/
theorem Placed.mem_contents (placed : holdings.Placed) (name : String) (document : Document) :
    (name, document) ∈ holdings.contents ↔
      (holdings.shelf document.deleted).find? name document.id = some document := by
  have live := placed.mem_shelf_contents false name document
  have dead := placed.mem_shelf_contents true name document
  simp only [shelf, Bool.false_eq_true, if_false, if_true] at live dead
  rw [contents, List.mem_append, live, dead]
  cases document.deleted <;> simp [shelf]

theorem Placed.nodup_shelf (placed : holdings.Placed) (deleted : Bool) :
    (holdings.shelf deleted).contents.Nodup := by
  have keys : (holdings.shelf deleted).contents.map (fun entry => (entry.1, entry.2.id)) =
      (holdings.shelf deleted).keysIn (Dict.keys (holdings.shelf deleted)) :=
    Shelf.map_contents fun found => (placed.labelled found).1
  exact List.Nodup.of_map _ (keys ▸ Shelf.nodup_keysIn _ (Dict.pairwise_keys _))

theorem Placed.nodup_contents (placed : holdings.Placed) : holdings.contents.Nodup := by
  refine List.nodup_append.2 ⟨placed.nodup_shelf false, placed.nodup_shelf true, ?_⟩
  rintro ⟨name, document⟩ isLive other isDead rfl
  have live := ((placed.mem_shelf_contents false name document).1 isLive).1
  have dead := ((placed.mem_shelf_contents true name document).1 isDead).1
  rw [live] at dead
  cases dead

/-! ## Purges -/

/-- After a sweep, a tombstone of the collection is there if it survives. -/
theorem find?_sweep (holdings : Holdings) (olderThan : Epoch) (swept name id : String) :
    (holdings.sweep olderThan swept).dead.find? name id =
      if name = swept then
        (holdings.dead.find? name id).filter (DocumentSession.survives olderThan)
      else holdings.dead.find? name id := by
  simp only [sweep, Shelf.find?_place, Dict.find?_filter]
  split
  · rename_i same
    rw [same, Shelf.find?_eq]
  · rfl

/-- A sweep leaves the other collections. -/
theorem collection_sweep (holdings : Holdings) (olderThan : Epoch) {swept name : String}
    (different : name ≠ swept) : (holdings.sweep olderThan swept).dead.collection name =
      holdings.dead.collection name := by
  simp only [sweep, Shelf.collection, Shelf.dict_find?_place, if_neg different]

end Holdings

namespace DocumentSession

/-- How many tombstones a purge takes away from a collection. -/
def purgedCount (olderThan : Epoch) (collection : Collection) : Nat :=
  collection.documents.values.countP fun tombstone => !survives olderThan tombstone

theorem purgeCollection_fst (olderThan : Epoch) (progress : Nat × DocumentSession)
    (name : String) : (purgeCollection olderThan progress name).1 =
      progress.1 + purgedCount olderThan (progress.2.holdings.dead.collection name) := by
  simp only [purgeCollection, purgedCount, Dict.size, Dict.filter, Dict.values, List.countP_map]
  generalize (progress.2.holdings.dead.collection name).documents.entries = entries
  have split := List.length_eq_countP_add_countP
    (fun entry : String × Document => survives olderThan entry.2) (l := entries)
  have goes : entries.countP ((fun tombstone => !survives olderThan tombstone) ∘ Prod.snd) =
      entries.countP fun entry => decide ¬survives olderThan entry.2 = true := by
    congr 1
    funext entry
    simp
  rw [← List.countP_eq_length_filter, goes]
  omega

/-- Purging collections counts the tombstones that go and leaves the others. -/
theorem purge_collections (olderThan : Epoch) {names : List String} (nodup : names.Nodup)
    (progress : Nat × DocumentSession) :
    let after := names.foldl (purgeCollection olderThan) progress
    let dead := progress.2.holdings.dead
    after.1 = progress.1 +
        (names.map fun name => purgedCount olderThan (dead.collection name)).sum ∧
      after.2.holdings.live = progress.2.holdings.live ∧
      ∀ name id, after.2.holdings.dead.find? name id =
        if name ∈ names then (dead.find? name id).filter (survives olderThan)
        else dead.find? name id := by
  induction names generalizing progress with
  | nil => simp
  | cons name rest ih =>
    obtain ⟨absent, others⟩ := List.nodup_cons.1 nodup
    obtain ⟨count, live, dead⟩ := ih others (purgeCollection olderThan progress name)
    rw [holdings_purgeCollection] at count live dead
    refine ⟨?_, live, fun other id => ?_⟩
    · -- The names differ, so the first sweep leaves the counts of the other collections.
      have same : (rest.map fun other => purgedCount olderThan
          ((progress.2.holdings.sweep olderThan name).dead.collection other)) =
          rest.map fun other => purgedCount olderThan
            (progress.2.holdings.dead.collection other) := by
        refine List.map_congr_left fun other member => ?_
        rw [Holdings.collection_sweep]
        rintro rfl
        exact absent member
      rw [List.foldl_cons, count, same, purgeCollection_fst, List.map_cons, List.sum_cons,
        Nat.add_assoc]
    · rw [List.foldl_cons, dead, Holdings.find?_sweep]
      by_cases here : other = name
      · simp [here, absent]
      · simp [here]

/-- A purge counts the tombstones that go and leaves the others. -/
theorem purge_eq (session : DocumentSession) (olderThan : Epoch) :
    (session.purge olderThan).1 =
        session.holdings.dead.contents.countP (fun entry => !survives olderThan entry.2) ∧
      (session.purge olderThan).2.holdings.live = session.holdings.live ∧
      ∀ name id, (session.purge olderThan).2.holdings.dead.find? name id =
        (session.holdings.dead.find? name id).filter (survives olderThan) := by
  obtain ⟨count, live, dead⟩ :=
    purge_collections olderThan (Dict.nodup_keys session.holdings.dead) (0, session)
  refine ⟨?_, live, fun name id => ?_⟩
  · rw [purge, count, Shelf.countP_contents, Dict.keys, List.map_map, Nat.zero_add]
    refine congrArg List.sum (List.map_congr_left fun entry member => ?_)
    have present := (Dict.mem_entries_iff _ entry.1 entry.2).1 member
    simp [Shelf.collection, present, purgedCount]
  · rw [purge, dead]
    split
    · rfl
    · rename_i absent
      rw [Dict.mem_keys_iff, Dict.contains, Bool.not_eq_true, Option.isSome_eq_false_iff,
        Option.isNone_iff_eq_none] at absent
      simp [Shelf.find?, absent]

/-! ## Cascades -/

/-- The keys of the live documents below a path, in order. -/
def keysBelow (session : DocumentSession) (path : Path) : List (String × String) :=
  session.holdings.live.keysIn (session.collectionsBelow path)

theorem pairwise_collectionsBelow (session : DocumentSession) (path : Path) :
    (session.collectionsBelow path).Pairwise (· < ·) :=
  (Dict.pairwise_keys session.holdings.live).sublist (List.filter_sublist.map _)

theorem mem_collectionsBelow (session : DocumentSession) (path : Path) (name : String) :
    name ∈ session.collectionsBelow path ↔ isBelow path name = true ∧
      ∃ id, (session.holdings.live.find? name id).isSome = true := by
  have filled (collection : Collection) : collection.isEmpty = false ↔
      ∃ id, (collection.documents.find? id).isSome = true := by
    rw [Collection.isEmpty, ← Bool.not_eq_true, Dict.isEmpty_iff]
    simp [Option.isSome_iff_ne_none]
  simp only [collectionsBelow, List.mem_map, List.mem_filter, Bool.and_eq_true,
    Bool.not_eq_true', filled, Prod.exists, exists_and_right, exists_eq_right,
    Dict.mem_entries_iff]
  constructor
  · rintro ⟨collection, present, below, id, found⟩
    exact ⟨below, id, by simpa [Shelf.find?, present] using found⟩
  · rintro ⟨below, id, found⟩
    obtain ⟨document, inShelf⟩ := Option.isSome_iff_exists.1 found
    obtain ⟨collection, present, inside⟩ := Option.bind_eq_some_iff.1 inShelf
    exact ⟨collection, present, below, id, by simp [inside]⟩

theorem mem_keysBelow (session : DocumentSession) (path : Path) (name id : String) :
    (name, id) ∈ session.keysBelow path ↔
      isBelow path name = true ∧ (session.holdings.live.find? name id).isSome = true := by
  rw [keysBelow, Shelf.mem_keysIn, mem_collectionsBelow]
  exact ⟨fun ⟨⟨below, _⟩, found⟩ => ⟨below, found⟩,
    fun ⟨below, found⟩ => ⟨⟨below, id, found⟩, found⟩⟩

end DocumentSession

namespace Holdings

/-- Turns live documents into tombstones, one after the other. -/
def buryKeys (holdings : Holdings) (keys : List (String × String)) (now : Epoch) : Holdings :=
  keys.foldl (fun holdings key => holdings.bury key.1 key.2 now) holdings

theorem buryKeys_append (holdings : Holdings) (earlier later : List (String × String))
    (now : Epoch) : holdings.buryKeys (earlier ++ later) now =
      (holdings.buryKeys earlier now).buryKeys later now :=
  List.foldl_append

end Holdings

namespace Collection

/-- Every document of a list of different ones is taken out. -/
theorem length_removeAll {ids : List String} (nodup : ids.Nodup) {collection : Collection}
    (now : Epoch) (present : ∀ id ∈ ids, (collection.documents.find? id).isSome = true) :
    (collection.removeAll ids now).1.length = ids.length := by
  induction ids generalizing collection with
  | nil => rfl
  | cons id rest ih =>
    obtain ⟨absent, others⟩ := List.nodup_cons.1 nodup
    obtain ⟨document, found⟩ := Option.isSome_iff_exists.1 (present id List.mem_cons_self)
    simp only [removeAll, remove?, found, Option.map_some, List.length_cons]
    refine congrArg Nat.succ (ih others fun other member => ?_)
    have different : other ≠ id := by
      rintro rfl
      exact absent member
    rw [Dict.find?_erase, if_neg different]
    exact present other (List.mem_cons_of_mem _ member)

end Collection

namespace DocumentSession

/-- Burying documents of a live collection one by one comes to taking them all out first and
laying the tombstones afterwards. -/
theorem buryKeys_removeAll (now : Epoch) (name : String) (ids : List String)
    {holdings : Holdings} {collection : Collection}
    (present : Dict.find? holdings.live name = some collection) :
    holdings.buryKeys (ids.map fun id => (name, id)) now =
      ⟨holdings.live.insert name (collection.removeAll ids now).2,
        (collection.removeAll ids now).1.foldl (Shelf.lay name) holdings.dead⟩ := by
  induction ids generalizing holdings collection with
  | nil => simp only [Collection.removeAll, Dict.insert_eq_self present]; rfl
  | cons id rest ih =>
    unfold Collection.removeAll
    cases removed : collection.remove? id now with
    | none =>
      have current : holdings.live.collection name = collection := by
        simp [Shelf.collection, present]
      have unchanged : holdings.bury name id now = holdings := by
        simp [Holdings.bury, current, removed]
      rw [← ih present, List.map_cons, Holdings.buryKeys, List.foldl_cons, unchanged]
      rfl
    | some outcome =>
      obtain ⟨tombstone, smaller⟩ := outcome
      have buried := Holdings.bury_of_remove? present removed
      have left : Dict.find? (holdings.live.insert name smaller) name = some smaller := by
        simp [Dict.find?_insert]
      have others := @ih ⟨holdings.live.insert name smaller, holdings.dead.lay name tombstone⟩
        smaller left
      rw [Dict.insert_insert] at others
      rw [Holdings.buryKeys, List.map_cons, List.foldl_cons, buried]
      exact others

theorem holdings_buryAll (session : DocumentSession) {name : String} (ids : List String)
    (now : Epoch) (present : (Dict.find? session.holdings.live name).isSome) :
    (session.buryAll name ids now).2.holdings =
      session.holdings.buryKeys (ids.map fun id => (name, id)) now := by
  obtain ⟨collection, found⟩ := Option.isSome_iff_exists.1 present
  have current : session.holdings.live.collection name = collection := by
    simp [Shelf.collection, found]
  simp [buryKeys_removeAll now name ids found, buryAll, current, holdings_foldl_bury]

/-- Burying the live document at a path. -/
theorem buryAt_some (session : DocumentSession) {path : Path} {document : Document} (now : Epoch)
    (found : session.holdings.live.find? path.collection path.documentId = some document) :
    (session.buryAt path now).1 = some { document with
        modified := session.holdings.nextEpoch path.collection now, deleted := true } ∧
      (session.buryAt path now).2.holdings =
        session.holdings.bury path.collection path.documentId now ∧
      (session.buryAtStamps path now).length = 1 := by
  have isLive : (session.holdings.live.find? path.collection path.documentId).isSome = true := by
    simp [found]
  obtain ⟨collection, present, inside⟩ := Option.bind_eq_some_iff.1 found
  have inLive : (Dict.find? session.holdings.live path.collection).isSome = true := by
    simp [present]
  have holdings := holdings_buryAll session [path.documentId] now inLive
  have current : session.holdings.live.collection path.collection = collection := by
    simp [Shelf.collection, present]
  refine ⟨?_, ?_, ?_⟩
  · simp [buryAt, isLive, buryAll, current, Collection.removeAll, Collection.remove?, inside,
      Holdings.nextEpoch]
  · rw [buryAt, if_pos isLive]
    exact holdings
  · simp [buryAtStamps, isLive, buryStamps, buryAll, current, Collection.removeAll,
      Collection.remove?, inside]

/-- Burying documents of one collection leaves the other ones. -/
theorem find?_live_buryAll (session : DocumentSession) {name other : String}
    (different : other ≠ name) (ids : List String) (now : Epoch) :
    Dict.find? (session.buryAll name ids now).2.holdings.live other =
      Dict.find? session.holdings.live other := by
  simp [buryAll, holdings_foldl_bury, Dict.find?_insert, different]

/-- Burying collections as a whole comes to burying their documents one by one, and gives out
as many epochs. -/
theorem buryCollections_eq (now : Epoch) {names : List String} (nodup : names.Nodup)
    (session : DocumentSession)
    (present : ∀ name ∈ names, (Dict.find? session.holdings.live name).isSome) :
    let keys := session.holdings.live.keysIn names
    (names.foldl (buryCollection now) session).holdings = session.holdings.buryKeys keys now ∧
      (buryCollectionStamps now session names).length = keys.length := by
  induction names generalizing session with
  | nil => exact ⟨rfl, rfl⟩
  | cons name rest ih =>
    obtain ⟨absent, others⟩ := List.nodup_cons.1 nodup
    -- The keys of the cascade are those from before it: burying one collection leaves the
    -- keys of the later ones.
    have kept : ∀ other ∈ rest, Dict.find? (buryCollection now session name).holdings.live other =
        Dict.find? session.holdings.live other := by
      intro other member
      refine find?_live_buryAll session ?_ _ now
      rintro rfl
      exact absent member
    have sameKeys : (buryCollection now session name).holdings.live.keysIn rest =
        session.holdings.live.keysIn rest := by
      refine List.flatMap_congr fun other member => ?_
      rw [Shelf.collection, Shelf.collection, kept other member]
    have first := holdings_buryAll session (session.holdings.live.collection name).documents.keys
      now (present name List.mem_cons_self)
    obtain ⟨left, stamps⟩ := ih others (buryCollection now session name) fun other member => by
      rw [kept other member]
      exact present other (List.mem_cons_of_mem _ member)
    rw [sameKeys] at left stamps
    refine ⟨?_, ?_⟩
    · rw [List.foldl_cons, left, buryCollection, first, Shelf.keysIn_cons,
        Holdings.buryKeys_append]
    · have count := Collection.length_removeAll
        (Dict.nodup_keys (session.holdings.live.collection name).documents) now
        fun id member => (Dict.mem_keys_iff _ id).1 member
      rw [buryCollectionStamps, List.length_append, stamps, Shelf.keysIn_cons,
        List.length_append, buryStamps, List.length_map, List.length_map]
      exact congrArg (· + _) count

theorem buryBelow_eq (session : DocumentSession) (path : Path) (now : Epoch) :
    (session.buryBelow path now).holdings =
        session.holdings.buryKeys (session.keysBelow path) now ∧
      (buryCollectionStamps now session (session.collectionsBelow path)).length =
        (session.keysBelow path).length := by
  refine buryCollections_eq now ?_ session fun name member => live_of_mem_collectionsBelow member
  exact (session.pairwise_collectionsBelow path).imp fun {left right} less => ne_of_lt less

end DocumentSession
end DocStore
