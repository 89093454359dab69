import DocStore.Proofs.Epoch
import DocStore.Proofs.Memory.Change

/-!
# Sound holdings

The representation invariant of the store of documents.  Every document stands on the
shelf and under the identifier that it carries, on one shelf at most; the epochs of a
collection are pairwise different and none lies past the latest; a collection with
tombstones has a live side; and no collection of tombstones is empty.

Where documents stand (`Holdings.Placed`) does not depend on epochs.  What holds of the
epochs (`Holdings.Dated`) needs that every new epoch lies past the latest one.
-/

namespace DocStore

namespace Shelf

/-! ## Look-ups after a change -/

/-- No collection of the shelf is empty. -/
def Full (shelf : Shelf) : Prop :=
  ∀ name collection, Dict.find? shelf name = some collection → collection.isEmpty = false

theorem collection_insert (shelf : Shelf) (name other : String) (collection : Collection) :
    Shelf.collection (shelf.insert name collection) other =
      if other = name then collection else shelf.collection other := by
  simp only [Shelf.collection, Dict.find?_insert]
  split <;> rfl

theorem find?_insert (shelf : Shelf) (name other id : String) (collection : Collection) :
    Shelf.find? (shelf.insert name collection) other id =
      if other = name then collection.documents.find? id else shelf.find? other id := by
  rw [find?_eq, collection_insert]
  split
  · rfl
  · rw [find?_eq]

theorem dict_find?_place (shelf : Shelf) (name other : String) (collection : Collection) :
    Dict.find? (shelf.place name collection) other =
      if other = name then (if collection.isEmpty then none else some collection)
      else Dict.find? shelf other := by
  unfold place
  by_cases empty : collection.isEmpty
  · rw [if_pos empty, if_pos empty, Dict.find?_erase]
  · rw [if_neg empty, if_neg empty, Dict.find?_insert]

theorem find?_place (shelf : Shelf) (name other id : String) (collection : Collection) :
    (shelf.place name collection).find? other id =
      if other = name then collection.documents.find? id else shelf.find? other id := by
  unfold find?
  rw [dict_find?_place]
  by_cases same : other = name
  · by_cases empty : collection.isEmpty
    · simp [same, empty, (Dict.isEmpty_iff collection.documents).1 empty id]
    · simp [same, empty]
  · simp [same]

theorem find?_unlink (shelf : Shelf) (name id other key : String) :
    (shelf.unlink name id).find? other key =
      if other = name ∧ key = id then none else shelf.find? other key := by
  unfold unlink
  cases present : Dict.find? shelf name with
  | none =>
    have absent : shelf.find? name id = none := by simp [find?, present]
    grind
  | some collection =>
    have inside (key : String) : shelf.find? name key = collection.documents.find? key := by
      simp [find?, present]
    by_cases member : collection.documents.contains id
    · simp only [member, if_true, find?_place, Dict.find?_erase]
      grind
    · have absent : collection.documents.find? id = none := by
        simpa [Dict.contains] using member
      simp only [member]
      grind

theorem find?_lay (shelf : Shelf) (name other key : String) (document : Document) :
    (shelf.lay name document).find? other key =
      if other = name ∧ key = document.id then some document else shelf.find? other key := by
  rw [lay, find?_place, Collection.keep, Dict.find?_insert]
  by_cases same : other = name
  · subst same
    by_cases found : key = document.id <;> simp [found, find?_eq]
  · simp [same]

theorem Full.place {shelf : Shelf} (full : Full shelf) (name : String)
    (collection : Collection) : Full (shelf.place name collection) := by
  intro other content found
  rw [dict_find?_place] at found
  by_cases same : other = name
  · by_cases empty : collection.isEmpty
    · simp [same, empty] at found
    · simp only [same, if_true, empty, Bool.false_eq_true, if_false, Option.some.injEq] at found
      simpa [← found] using empty
  · rw [if_neg same] at found
    exact full other content found

theorem Full.unlink {shelf : Shelf} (full : Full shelf) (name id : String) :
    Full (shelf.unlink name id) := by
  unfold Shelf.unlink
  split
  · exact full
  · split
    · exact full.place _ _
    · exact full

/-- A changed shelf has no collection besides the changed one and those of before. -/
theorem isSome_of_place {shelf : Shelf} {name other : String} {collection : Collection}
    (present : (Dict.find? (shelf.place name collection) other).isSome) :
    other = name ∨ (Dict.find? shelf other).isSome := by
  rw [dict_find?_place] at present
  by_cases same : other = name
  · exact .inl same
  · rw [if_neg same] at present
    exact .inr present

theorem isSome_of_unlink {shelf : Shelf} {name id other : String}
    (present : (Dict.find? (shelf.unlink name id) other).isSome) :
    other = name ∨ (Dict.find? shelf other).isSome := by
  unfold unlink at present
  split at present
  · exact .inr present
  · split at present
    · exact isSome_of_place present
    · exact .inr present

end Shelf

namespace Holdings

/-- The live documents, or the tombstones. -/
def shelf (holdings : Holdings) (deleted : Bool) : Shelf :=
  if deleted then holdings.dead else holdings.live

/-- Where documents stand. -/
structure Placed (holdings : Holdings) : Prop where
  /-- A document carries the identifier and the mark of its place. -/
  labelled : ∀ {deleted name id document},
    (holdings.shelf deleted).find? name id = some document →
      document.id = id ∧ document.deleted = deleted
  /-- No document stands on both shelves. -/
  disjoint : ∀ name id,
    holdings.live.find? name id = none ∨ holdings.dead.find? name id = none
  /-- A collection with tombstones has a live side. -/
  live_of_dead : ∀ {name}, (Dict.find? holdings.dead name).isSome →
    (Dict.find? holdings.live name).isSome
  /-- No collection of tombstones is empty. -/
  full : holdings.dead.Full

/-- What holds of the epochs of a collection. -/
structure Dated (holdings : Holdings) : Prop where
  /-- The epochs of the live documents and tombstones of a collection are different. -/
  distinct : ∀ {name deleted other id key document second},
    (holdings.shelf deleted).find? name id = some document →
    (holdings.shelf other).find? name key = some second →
    document.modified = second.modified → deleted = other ∧ id = key
  /-- None lies past the latest one. -/
  bounded : ∀ {name deleted id document},
    (holdings.shelf deleted).find? name id = some document →
      document.modified ≤ (holdings.live.collection name).latest

/-- The representation invariant. -/
structure Sound (holdings : Holdings) : Prop extends Placed holdings, Dated holdings

theorem Placed.id_of_live {holdings : Holdings} (placed : holdings.Placed) {name id : String}
    {document : Document} (found : holdings.live.find? name id = some document) :
    document.id = id :=
  (@Placed.labelled holdings placed false name id document found).1

/-! ## What changes do to the places -/

/-- A document takes the place of its identifier in a collection, on the shelf of its mark
and alone, and its epoch becomes the latest one.  All other places stay. -/
structure Renews (before after : Holdings) (name : String) (document : Document) : Prop where
  places : ∀ deleted other key, (after.shelf deleted).find? other key =
    if other = name ∧ key = document.id then
      if deleted = document.deleted then some document else none
    else (before.shelf deleted).find? other key
  latest : ∀ other, (after.live.collection other).latest =
    if other = name then document.modified else (before.live.collection other).latest
  live : ∀ other, other = name ∨ (Dict.find? before.live other).isSome →
    (Dict.find? after.live other).isSome
  dead : ∀ other, (Dict.find? after.dead other).isSome →
    other = name ∨ (Dict.find? before.dead other).isSome
  full : before.dead.Full → after.dead.Full

/-- A document that stands somewhere afterwards is the new one or stood there before. -/
theorem Renews.of_find? {before after : Holdings} {name other key : String} {deleted : Bool}
    {document found : Document} (renews : before.Renews after name document)
    (present : (after.shelf deleted).find? other key = some found) :
    (other = name ∧ key = document.id ∧ deleted = document.deleted ∧ found = document) ∨
      (before.shelf deleted).find? other key = some found := by
  rw [renews.places] at present
  split at present
  · rename_i here
    split at present
    · rename_i mark
      cases present
      exact .inl ⟨here.1, here.2, mark, rfl⟩
    · cases present
  · exact .inr present

theorem renews_store (holdings : Holdings) (name : String) {document : Document} (now : Epoch)
    (revived : document.deleted = false) :
    holdings.Renews (holdings.store name document now) name
      { document with modified := holdings.nextEpoch name now } where
  places deleted other key := by
    cases deleted with
    | false =>
      simp only [shelf, store, Bool.false_eq_true, if_false, Shelf.find?_insert, Collection.put,
        Dict.find?_insert, revived]
      by_cases same : other = name
      · subst same
        by_cases found : key = document.id <;> simp [found, Shelf.find?_eq, nextEpoch]
      · simp [same]
    | true => simp [shelf, store, Shelf.find?_unlink, revived]
  latest other := by
    simp only [store, Shelf.collection_insert]
    split <;> rfl
  live other present := by
    simp only [store, Dict.find?_insert]
    split
    · rfl
    · exact present.resolve_left ‹_›
  dead other present := Shelf.isSome_of_unlink present
  full full := full.unlink name document.id

theorem renews_bury {holdings : Holdings} {name id : String} {document : Document} (now : Epoch)
    (found : holdings.live.find? name id = some document) (labelled : document.id = id) :
    holdings.Renews (holdings.bury name id now) name
      { document with modified := holdings.nextEpoch name now, deleted := true } := by
  rw [bury_eq now found]
  refine ⟨fun deleted other key => ?_, fun other => ?_, fun other present => ?_,
    fun other present => ?_, fun full => full.place name _⟩
  · cases deleted with
    | false =>
      simp only [shelf, Bool.false_eq_true, if_false, Shelf.find?_insert, Dict.find?_erase,
        labelled]
      by_cases same : other = name
      · subst same
        by_cases here : key = id <;> simp [here, Shelf.find?_eq]
      · simp [same]
    | true => simp [shelf, Shelf.find?_lay]
  · simp only [Shelf.collection_insert]
    split <;> rfl
  · simp only [Dict.find?_insert]
    split
    · rfl
    · exact present.resolve_left ‹_›
  · exact Shelf.isSome_of_place present

/-- A sweep only takes tombstones away. -/
theorem find?_of_sweep {holdings : Holdings} {olderThan : Epoch} {swept name id : String}
    {deleted : Bool} {document : Document}
    (found : ((holdings.sweep olderThan swept).shelf deleted).find? name id = some document) :
    (holdings.shelf deleted).find? name id = some document := by
  cases deleted with
  | false => exact found
  | true =>
    simp only [shelf, sweep, if_true, Shelf.find?_place, Dict.find?_filter] at found ⊢
    split at found
    · rename_i same
      rw [same, Shelf.find?_eq]
      exact (Option.filter_eq_some_iff.1 found).1
    · exact found

/-- A sweep makes no collection of tombstones. -/
theorem isSome_of_sweep {holdings : Holdings} {olderThan : Epoch} {swept name : String}
    (present : (Dict.find? (holdings.sweep olderThan swept).dead name).isSome) :
    (Dict.find? holdings.dead name).isSome := by
  cases before : Dict.find? holdings.dead name with
  | some collection => rfl
  | none =>
    rcases Shelf.isSome_of_place present with same | still
    · subst same
      have nothing : holdings.dead.collection name = Collection.empty := by
        simp [Shelf.collection, before]
      rw [sweep, nothing, Shelf.dict_find?_place, if_pos rfl] at present
      cases present
    · rw [before] at still
      exact still

/-! ## Changes keep the places in order -/

theorem placed_empty : empty.Placed where
  labelled {deleted _ _ _} found := by cases deleted <;> cases found
  disjoint _ _ := .inl rfl
  live_of_dead present := present
  full _ _ found := by cases found

theorem Placed.renews {before after : Holdings} {name : String} {document : Document}
    (placed : before.Placed) (renews : before.Renews after name document) : after.Placed where
  labelled present := by
    rcases renews.of_find? present with ⟨_, rfl, rfl, rfl⟩ | present
    · exact ⟨rfl, rfl⟩
    · exact placed.labelled present
  disjoint other key := by
    have live := renews.places false other key
    have dead := renews.places true other key
    have apart := placed.disjoint other key
    simp only [shelf] at live dead
    cases marked : document.deleted <;> grind
  live_of_dead {other} present := by
    refine renews.live other ?_
    exact (renews.dead other present).imp_right placed.live_of_dead
  full := renews.full placed.full

theorem Placed.sweep {holdings : Holdings} (placed : holdings.Placed) (olderThan : Epoch)
    (name : String) : (holdings.sweep olderThan name).Placed where
  labelled present := placed.labelled (find?_of_sweep present)
  disjoint other id := by
    refine (placed.disjoint other id).imp_right fun nothing => ?_
    refine Option.eq_none_iff_forall_not_mem.2 fun document found => ?_
    have before : (holdings.shelf true).find? other id = some document := find?_of_sweep found
    rw [shelf, if_pos rfl, nothing] at before
    cases before
  live_of_dead present := placed.live_of_dead (isSome_of_sweep present)
  full := placed.full.place name _

theorem Placed.change {now : Epoch} {holdings after : Holdings} {stamps : List Stamp}
    (placed : holdings.Placed) (change : Change now holdings stamps after) : after.Placed := by
  cases change with
  | store name document revived => exact placed.renews (renews_store holdings name now revived)
  | bury name id document found =>
    have labelled : document.id = id := placed.id_of_live found
    exact placed.renews (renews_bury now found labelled)
  | sweep olderThan name => exact placed.sweep olderThan name

theorem Placed.changes {now : Epoch} {holdings after : Holdings} {stamps : List Stamp}
    (placed : holdings.Placed) (changes : Changes now holdings stamps after) : after.Placed := by
  induction changes with
  | refl => exact placed
  | cons first _ ih => exact ih (placed.change first)

/-! ## Changes keep the epochs apart -/

theorem dated_empty : empty.Dated where
  distinct {_ deleted _ _ _ _ _} found := by cases deleted <;> cases found
  bounded {_ deleted _ _} found := by cases deleted <;> cases found

/-- The new epoch lies past every other one, so the epochs stay apart. -/
theorem Dated.renews {before after : Holdings} {name : String} {document : Document}
    (dated : before.Dated) (renews : before.Renews after name document)
    (fresh : (before.live.collection name).latest < document.modified) : after.Dated := by
  have less : ∀ {deleted id found}, (before.shelf deleted).find? name id = some found →
      found.modified < document.modified := by
    intro deleted id found present
    have bound := dated.bounded present
    rw [Epoch.le_iff] at bound
    rw [Epoch.lt_iff] at fresh ⊢
    omega
  have differ : ∀ {deleted id found}, (before.shelf deleted).find? name id = some found →
      found.modified ≠ document.modified := by
    intro deleted id found present equal
    have past := less present
    rw [equal, Epoch.lt_iff] at past
    omega
  constructor
  · intro other deleted side id key first second firstFound secondFound equal
    rcases renews.of_find? firstFound with ⟨rfl, rfl, rfl, rfl⟩ | firstOld
    · rcases renews.of_find? secondFound with ⟨_, rfl, rfl, rfl⟩ | secondOld
      · exact ⟨rfl, rfl⟩
      · exact absurd equal.symm (differ secondOld)
    · rcases renews.of_find? secondFound with ⟨rfl, rfl, rfl, rfl⟩ | secondOld
      · exact absurd equal (differ firstOld)
      · exact dated.distinct firstOld secondOld equal
  · intro other deleted id found present
    rw [renews.latest]
    rcases renews.of_find? present with ⟨rfl, rfl, rfl, rfl⟩ | old
    · rw [if_pos rfl]
      exact Int.le_refl _
    · split
      · rename_i here
        subst here
        exact Int.le_of_lt (less old)
      · exact dated.bounded old

theorem Dated.sweep {holdings : Holdings} (dated : holdings.Dated) (olderThan : Epoch)
    (name : String) : (holdings.sweep olderThan name).Dated where
  distinct first second equal :=
    dated.distinct (find?_of_sweep first) (find?_of_sweep second) equal
  bounded found := dated.bounded (find?_of_sweep found)

/-- A change whose stamps lie past the latest epochs keeps the epochs apart. -/
theorem Dated.change {now : Epoch} {holdings after : Holdings} {stamps : List Stamp}
    (dated : holdings.Dated) (placed : holdings.Placed)
    (change : Change now holdings stamps after)
    (fresh : ∀ stamp ∈ stamps,
      (holdings.live.collection stamp.collection).latest < stamp.epoch) : after.Dated := by
  cases change with
  | store name document revived =>
    exact dated.renews (renews_store holdings name now revived) (fresh _ List.mem_cons_self)
  | bury name id document found =>
    have labelled : document.id = id := placed.id_of_live found
    exact dated.renews (renews_bury now found labelled) (fresh _ List.mem_cons_self)
  | sweep olderThan name => exact dated.sweep olderThan name

/-- A change gives out the next epoch of a collection, which becomes the latest one, or
none. -/
theorem Change.stamped {now : Epoch} {holdings after : Holdings} {stamps : List Stamp}
    (change : Change now holdings stamps after) :
    (stamps = [] ∧ after.live = holdings.live) ∨
      ∃ name, stamps = [⟨name, holdings.nextEpoch name now⟩] ∧
        ∀ other, (after.live.collection other).latest =
          if other = name then holdings.nextEpoch name now
          else (holdings.live.collection other).latest := by
  cases change with
  | store name document revived =>
    exact .inr ⟨name, rfl, (renews_store holdings name now revived).latest⟩
  | bury name id document found =>
    refine .inr ⟨name, rfl, fun other => ?_⟩
    rw [bury_eq now found]
    simp only [Shelf.collection_insert]
    split <;> rfl
  | sweep olderThan name => exact .inl ⟨rfl, rfl⟩

end Holdings
end DocStore
